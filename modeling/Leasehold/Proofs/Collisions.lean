/-
This file says exactly which locks share a key. Within a namespace owner keys are as different as
the names, and so are data keys, but the data key of a lock is the owner key of the lock whose name
goes on with `:data`. This is the only way in which two locks of a namespace meet. Locks of two
namespaces meet only if a colon within one of the namespaces is taken for the one after the other.
-/

import Leasehold.Proofs.Isolation

namespace Leasehold

variable {space elsewhere name other : String}

/-! ### Within a namespace -/

theorem ownerKey_inj : ownerKey space name = ownerKey space other ↔ name = other :=
  String.append_right_inj _

theorem dataKey_eq_ownerKey (space name : String) :
    dataKey space name = ownerKey space (name ++ ":data") :=
  ownerKey_append space name ":data"

/-- The keys of two locks of a namespace are apart if neither name is the other with `:data`. -/
theorem disjoint_ofName_iff (different : name ≠ other) :
    (KeyPair.ofName space name).Disjoint (KeyPair.ofName space other) ↔
      name ≠ other ++ ":data" ∧ other ≠ name ++ ":data" := by
  have owners : ownerKey space name ≠ ownerKey space other := mt ownerKey_inj.mp different
  have below : ownerKey space name ≠ dataKey space other ↔ name ≠ other ++ ":data" := by
    rw [dataKey_eq_ownerKey]
    exact not_congr ownerKey_inj
  have above : dataKey space name ≠ ownerKey space other ↔ other ≠ name ++ ":data" := by
    rw [dataKey_eq_ownerKey]
    exact not_congr (ownerKey_inj.trans eq_comm)
  have data : dataKey space name ≠ dataKey space other := by
    rw [dataKey_eq_ownerKey, dataKey_eq_ownerKey]
    exact mt (fun same => (String.append_left_inj _).mp (ownerKey_inj.mp same)) different
  simp only [KeyPair.Disjoint, KeyPair.ofName, owners, data, ne_eq, not_false_eq_true, true_and,
    and_true, ← below, ← above]

/-! ### In two namespaces -/

theorem ownerKey_ne_of_plain (different : space ≠ elsewhere) (plain : ':' ∉ space.toList)
    (unbroken : ':' ∉ elsewhere.toList) : ownerKey space name ≠ ownerKey elsewhere other := by
  have broken (front back : String) : ':' ∈ (ownerKey front back).toList := by
    simp [ownerKey]
  intro same
  obtain equal | ⟨inner, rfl⟩ | ⟨inner, rfl⟩ := ownerKey_cases same
  · exact different equal
  · exact plain (broken elsewhere inner)
  · exact unbroken (broken space inner)

theorem disjoint_ofName_of_plain (different : space ≠ elsewhere) (plain : ':' ∉ space.toList)
    (unbroken : ':' ∉ elsewhere.toList) (name other : String) :
    (KeyPair.ofName space name).Disjoint (KeyPair.ofName elsewhere other) := by
  have apart (first second : String) : ownerKey space first ≠ ownerKey elsewhere second :=
    ownerKey_ne_of_plain different plain unbroken
  simp only [KeyPair.Disjoint, KeyPair.ofName, dataKey_eq_ownerKey, apart, ne_eq,
    not_false_eq_true, and_self]

/-- Two locks of a namespace have a key in common exactly if the name of one is the name of the
other with `:data` added. The two keys of one lock always differ, and locks of two namespaces
without colons have no key in common. -/
theorem collisions_characterised :
    (∀ space name other : String, name ≠ other →
        (¬ (KeyPair.ofName space name).Disjoint (KeyPair.ofName space other) ↔
          name = other ++ ":data" ∨ other = name ++ ":data")) ∧
      (∀ space name : String,
        (KeyPair.ofName space name).owner ≠ (KeyPair.ofName space name).data) ∧
      ∀ space elsewhere : String, space ≠ elsewhere → ':' ∉ space.toList →
        ':' ∉ elsewhere.toList → ∀ name other : String,
          (KeyPair.ofName space name).Disjoint (KeyPair.ofName elsewhere other) := by
  refine ⟨fun space name other different => ?_, fun space name => ?_, fun _ _ => ?_⟩
  · rw [disjoint_ofName_iff different, not_and_or, not_not, not_not]
  · exact (Resource.data_ne_owner ⟨space, name⟩).symm
  · exact disjoint_ofName_of_plain

theorem collisions_characterised_data :
    ("job:data" ≠ "job" ∧
        (¬ (KeyPair.ofName "app" "job:data").Disjoint (KeyPair.ofName "app" "job") ↔
          "job:data" = "job" ++ ":data" ∨ "job" = "job:data" ++ ":data")) ∧
      "app" ≠ "web" ∧ ':' ∉ "app".toList ∧ ':' ∉ "web".toList ∧
        (KeyPair.ofName "app" "job").Disjoint (KeyPair.ofName "web" "job:data") := by
  obtain ⟨within, -, between⟩ := collisions_characterised
  exact ⟨⟨by decide, within "app" "job:data" "job" (by decide)⟩, by decide, by decide, by decide,
    between "app" "web" (by decide) (by decide) (by decide) "job" "job:data"⟩

end Leasehold
