import ServiceTemplates.Proofs.Store.Key
import ServiceTemplates.Reconcile.Requeue

/-!
# Keys tell objects apart

Queues and the map of failures know an object by a text alone. Such a text is read back as the
namespace and the name that it was made of, every other text is refused, and objects of different
places never share one. Main statement: `keys_tell_apart`.
-/

namespace ServiceTemplates

/-- Failures are counted apart for every kind and key. -/
theorem RetryPolicy.retryKey_eq_retryKey_iff {k k' : Kind} {m m' : Metadata} :
    retryKey k m = retryKey k' m' ↔ k = k' ∧ m.key = m'.key := by
  constructor
  · intro h
    -- No name of a kind has a colon, so the first colon is the one after the kind.
    have hcolon : ∀ k : Kind, ':' ∉ k.name.toList := by
      intro k
      cases k <;> decide
    obtain ⟨hkind, hkey⟩ := append_mark_inj (hcolon k) (hcolon k')
      (by simpa [retryKey] using congrArg String.toList h)
    exact ⟨Kind.name_injective (String.toList_inj.1 hkind), String.toList_inj.1 hkey⟩
  · rintro ⟨rfl, hkey⟩
    rw [retryKey, retryKey, hkey]

/-- **Keys tell objects apart.** The key of an object with a namespace and a name is read as
these. A text is read exactly if it is a namespace, a slash and a name, it is read as these two,
and it is the key of the objects at that place; every other text is refused by name. Two objects
with namespaces have the same key, or the same key for their failures, only if they have the same
place, and the latter only if they are of the same kind as well. -/
theorem keys_tell_apart :
    (∀ (m : Metadata) (ns name : String), ObjectKey.ofMetadata m = ⟨ns, name⟩ →
      IsKeyPart ns → IsKeyPart name → splitKey m.key = .ok (ns, name)) ∧
    (∀ key ns name, splitKey key = .ok (ns, name) ↔
      key = ns ++ "/" ++ name ∧ IsKeyPart ns ∧ IsKeyPart name) ∧
    (∀ key ns name, splitKey key = .ok (ns, name) →
      ∀ m : Metadata, ObjectKey.ofMetadata m = ⟨ns, name⟩ → m.key = key) ∧
    (∀ key, (¬ ∃ ns name, key = ns ++ "/" ++ name ∧ IsKeyPart ns ∧ IsKeyPart name) →
      splitKey key = .error (.invalidKey key)) ∧
    ∀ (k k' : Kind) (m m' : Metadata),
      IsKeyPart (m.ns.getD "") → IsKeyPart (m'.ns.getD "") →
      (m.key = m'.key ↔ ObjectKey.ofMetadata m = ObjectKey.ofMetadata m') ∧
      (RetryPolicy.retryKey k m = RetryPolicy.retryKey k' m' ↔
        k = k' ∧ ObjectKey.ofMetadata m = ObjectKey.ofMetadata m') := by
  refine ⟨fun m ns name => Metadata.splitKey_key, fun key ns name => splitKey_eq_ok_iff,
    ?_, ?_, ?_⟩
  · rintro key ns name hread m hplace
    obtain ⟨rfl, hns, -⟩ := splitKey_eq_ok_iff.1 hread
    obtain ⟨rfl, rfl⟩ := ObjectKey.mk.inj hplace
    exact Metadata.key_eq hns
  · intro key hnone
    rcases splitKey_eq_ok_or_error key with ⟨⟨ns, name⟩, hread⟩ | hrefused
    · exact absurd ⟨ns, name, splitKey_eq_ok_iff.1 hread⟩ hnone
    · exact hrefused
  · intro k k' m m' hns hns'
    have hplace := Metadata.key_eq_key_iff hns hns'
    exact ⟨hplace, RetryPolicy.retryKey_eq_retryKey_iff.trans (and_congr_right' hplace)⟩

/-- The hyphens of two places may stand around the slash or elsewhere, a second slash is refused,
and a secret may have the name of an instance. -/
theorem keys_tell_apart_hyphens :
    let orders : Metadata := { ns := some "shop", name := some "orders-db" }
    let database : Metadata := { ns := some "shop-orders", name := some "db" }
    (IsKeyPart "shop" ∧ IsKeyPart "orders-db" ∧ IsKeyPart "shop-orders") ∧
      splitKey orders.key = .ok ("shop", "orders-db") ∧
      splitKey "shop/orders/db" = .error (.invalidKey "shop/orders/db") ∧
      orders.key ≠ database.key ∧
      RetryPolicy.retryKey .templatedInstance orders ≠ RetryPolicy.retryKey .secret orders := by
  intro orders database
  have hshop : IsKeyPart "shop" := ⟨by decide, by decide⟩
  have horders : IsKeyPart "orders-db" := ⟨by decide, by decide⟩
  have hshopOrders : IsKeyPart "shop-orders" := ⟨by decide, by decide⟩
  obtain ⟨hread, hreadings, -, hrefused, happart⟩ := keys_tell_apart
  refine ⟨⟨hshop, horders, hshopOrders⟩, hread orders _ _ rfl hshop horders, ?_, ?_, ?_⟩
  · apply hrefused
    rintro ⟨ns, name, h⟩
    cases (hreadings _ ns name).2 h
  · rw [Ne, (happart .secret .secret orders database hshop hshopOrders).1]
    decide
  · rw [Ne, (happart .templatedInstance .secret orders orders hshop hshop).2]
    decide

end ServiceTemplates
