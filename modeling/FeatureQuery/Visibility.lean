import FeatureQuery.Page
import FeatureQuery.Store
import FeatureQuery.Window

/-!
# Visibility

Deleted, unlisted and enterprise features are hidden unless a request asks for them; unlisted ones are also
shown to those who may see them anyway. A page counts and shows visible features only, and the count is
taken before the window is cut out.

## Main results

* `Visibility.shows_mono`: a request that asks for more shows no less.
* `Store.page_of_offline`: without the feature records there is no page.
-/

namespace FeatureQuery

/-- The normally hidden features that a request asks for. -/
structure Visibility where
  showUnlisted : Bool
  showDeleted : Bool
  showEnterprise : Bool
  deriving DecidableEq

namespace Visibility

/-- Nothing that is normally hidden. -/
def plain : Visibility := ⟨false, false, false⟩

/-- A feature is shown. -/
def shows (visibility : Visibility) (feature : Feature) : Bool :=
  (visibility.showDeleted || !feature.deleted) && (visibility.showUnlisted || !feature.unlisted)
    && (visibility.showEnterprise || !feature.isEnterprise)

/-- A request that asks for more shows no less. -/
theorem shows_mono {visibility wider : Visibility} {feature : Feature}
    (unlisted : visibility.showUnlisted = true → wider.showUnlisted = true)
    (deleted : visibility.showDeleted = true → wider.showDeleted = true)
    (enterprise : visibility.showEnterprise = true → wider.showEnterprise = true)
    (h : visibility.shows feature = true) : wider.shows feature = true := by
  simp only [shows, Bool.and_eq_true, Bool.or_eq_true] at h ⊢
  exact ⟨⟨h.1.1.imp_left deleted, h.1.2.imp_left unlisted⟩, h.2.imp_left enterprise⟩

end Visibility

namespace Store

/-- The records of features in the order of their ids, each once. Ids without a record are passed over. -/
def recordsInOrder (records : List Feature) (ids : List Int64) : List Feature :=
  ids.eraseDups.filterMap fun id => records.find? (·.id == id)

/-- The page that shows a window of the visible features among some ids. -/
def page (store : Store) (ids : List Int64) (visibility : Visibility) (window : Window)
    (namesOnly : Bool) : Except StoreError Page := do
  let records ← store.fetchFeatures ids
  let visible := (recordsInOrder records ids).filter visibility.shows
  return ⟨(window.slice visible).map (.ofFeature namesOnly), .ofNat visible.length⟩

/-- Without the feature records there is no page. -/
theorem page_of_offline {store : Store} (ids : List Int64) (visibility : Visibility) (window : Window)
    (namesOnly : Bool) (h : Collection.feature ∈ store.offline) :
    store.page ids visibility window namesOnly
      = .error (.unavailable backendName "feature collection is offline") := by
  simp [page, fetchFeatures, checkOnline, h, bind, Except.bind]
  rfl

end Store

end FeatureQuery
