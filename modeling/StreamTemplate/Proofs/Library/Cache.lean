import Mathlib.Data.List.Dedup
import Mathlib.Data.List.DropRight
import StreamTemplate.Library.Cache

/-!
# What a cache holds

A cache that began empty is known by the uses that were made of it, in order: it holds what was used
last of each of the most recent keys, as many of them as there is room for.
-/

namespace StreamTemplate

variable {κ α : Type} [BEq κ]

/-- The last use of every key, in order. -/
def lastUses : List (κ × α) → List (κ × α)
  | [] => []
  | use :: uses =>
    if uses.any (fun later => later.1 == use.1) then lastUses uses else use :: lastUses uses

variable {uses : List (κ × α)} {use : κ × α} {key : κ} {a : α} {n : Nat}

/-! ## The last uses -/

section LastUses

theorem mem_of_mem_lastUses (h : use ∈ lastUses uses) : use ∈ uses := by
  induction uses with
  | nil => exact h
  | cons first uses ih =>
    unfold lastUses at h
    split at h
    · exact .tail _ (ih h)
    · rcases List.mem_cons.mp h with rfl | h
      · exact List.mem_cons_self ..
      · exact .tail _ (ih h)

variable [LawfulBEq κ]

/-- One more use takes the place of the one before of its key. -/
theorem lastUses_concat (uses : List (κ × α)) (key : κ) (a : α) :
    lastUses (uses ++ [(key, a)]) =
      (lastUses uses).filter (fun use => !(use.1 == key)) ++ [(key, a)] := by
  induction uses with
  | nil => rfl
  | cons first uses ih =>
    by_cases same : first.1 = key
    · -- This use counts no longer, whether or not it counted before.
      have forgotten : lastUses (first :: uses ++ [(key, a)]) = lastUses (uses ++ [(key, a)]) := by
        simp [lastUses, same]
      rw [forgotten, ih, lastUses]
      split <;> simp [same]
    · by_cases again : uses.any (fun later => later.1 == first.1) <;>
        simp [lastUses, again, same, Ne.symm same, ih]

theorem keys_lastUses [DecidableEq κ] (uses : List (κ × α)) :
    (lastUses uses).map (·.1) = (uses.map (·.1)).dedup := by
  induction uses with
  | nil => rfl
  | cons first uses ih =>
    by_cases again : uses.any (fun later => later.1 == first.1)
    · have mem : first.1 ∈ uses.map (·.1) := by simpa using again
      simp [lastUses, again, ih, List.dedup_cons_of_mem mem]
    · have new : first.1 ∉ uses.map (·.1) := by simpa using again
      simp [lastUses, again, ih, List.dedup_cons_of_notMem new]

theorem nodup_keys_lastUses (uses : List (κ × α)) : ((lastUses uses).map (·.1)).Nodup := by
  classical exact keys_lastUses uses ▸ List.nodup_dedup _

/-- Among uses of different keys at most one is of a given key. -/
theorem length_le_length_filter (nodup : (uses.map (·.1)).Nodup) (key : κ) :
    uses.length ≤ (uses.filter fun use => !(use.1 == key)).length + 1 := by
  induction uses with
  | nil => exact Nat.zero_le _
  | cons first uses ih =>
    obtain ⟨new, nodup⟩ := List.nodup_cons.mp nodup
    by_cases same : first.1 = key
    · have kept : uses.filter (fun use => !(use.1 == key)) = uses := by
        refine List.filter_eq_self.mpr fun use mem => ?_
        have other : use.1 ≠ key := by
          rintro rfl
          exact new (List.mem_map.mpr ⟨use, mem, same.symm⟩)
        simp [other]
      simp [same, kept]
    · simpa [same] using ih nodup

omit [BEq κ] [LawfulBEq κ] in
theorem rtake_append_of_le {before after : List (κ × α)} (enough : n ≤ after.length) :
    (before ++ after).rtake n = after.rtake n := by
  rw [List.rtake, List.rtake, List.length_append, Nat.add_sub_assoc enough, List.drop_append,
    List.drop_eq_nil_of_le (Nat.le_add_right ..), Nat.add_sub_cancel_left, List.nil_append]

/-- What has been dropped for want of room is not missed when one more use is made. -/
theorem rtake_filter_rtake (nodup : (uses.map (·.1)).Nodup) (key : κ) (a : α) (n : Nat) :
    ((uses.rtake n).filter (fun use => !(use.1 == key)) ++ [(key, a)]).rtake n =
      (uses.filter (fun use => !(use.1 == key)) ++ [(key, a)]).rtake n := by
  cases n with
  | zero => simp
  | succ n =>
    rw [List.rtake_concat_succ, List.rtake_concat_succ]
    congr 1
    by_cases room : uses.length ≤ n + 1
    · have all : uses.rtake (n + 1) = uses := by
        rw [List.rtake, Nat.sub_eq_zero_of_le room, List.drop_zero]
      rw [all]
    · have enough : n ≤ ((uses.rtake (n + 1)).filter fun use => !(use.1 == key)).length := by
        have sub : (uses.rtake (n + 1)).map (·.1) |>.Sublist (uses.map (·.1)) :=
          (List.drop_sublist ..).map _
        have most := length_le_length_filter (nodup.sublist sub) key
        have size : (uses.rtake (n + 1)).length = n + 1 := by
          rw [List.rtake, List.length_drop]
          omega
        omega
      rw [← rtake_append_of_le enough, ← List.filter_append]
      congr 2
      exact List.take_append_drop ..

end LastUses

/-! ## The cache after its uses -/

/-- The cache holds the most recent of these uses. -/
def Cache.Holds (c : Cache κ α) (uses : List (κ × α)) : Prop :=
  c.entries = (lastUses uses).rtake c.capacity

namespace Cache

variable {c : Cache κ α}

theorem holds_clear (c : Cache κ α) : c.clear.Holds [] := by
  simp [Holds, clear, lastUses]

theorem holds_of_empty (empty : c.entries = []) : c.Holds [] := by
  simp [Holds, empty, lastUses]

@[simp] theorem capacity_insert (c : Cache κ α) (key : κ) (a : α) :
    (c.insert key a).capacity = c.capacity := rfl

namespace Holds

theorem size_le (h : c.Holds uses) : c.size ≤ c.capacity := by
  rw [size, h, List.rtake, List.length_drop]
  omega

/-- What is held of a key is what was used. -/
theorem mem_of_find? [LawfulBEq κ] (h : c.Holds uses) (found : c.find? key = some a) :
    (key, a) ∈ uses := by
  obtain ⟨before, after, same, -⟩ := List.lookup_eq_some_iff.mp found
  have mem : (key, a) ∈ c.entries := by simp [same]
  rw [h] at mem
  exact mem_of_mem_lastUses (List.mem_of_mem_drop mem)

theorem insert [LawfulBEq κ] (h : c.Holds uses) (key : κ) (a : α) :
    (c.insert key a).Holds (uses ++ [(key, a)]) := by
  have nodup := nodup_keys_lastUses uses
  calc (c.insert key a).entries
      = (c.entries.filter (fun use => !(use.1 == key)) ++ [(key, a)]).rtake c.capacity := rfl
    _ = ((lastUses uses).filter (fun use => !(use.1 == key)) ++ [(key, a)]).rtake c.capacity := by
        rw [h, rtake_filter_rtake nodup]
    _ = (lastUses (uses ++ [(key, a)])).rtake c.capacity := by rw [lastUses_concat]

/-- The keys that are held are the most recent ones, as many as there is room for. -/
theorem keys_eq [DecidableEq κ] [LawfulBEq κ] (h : c.Holds uses) :
    c.keys = ((uses.map (·.1)).dedup).rtake c.capacity := by
  rw [keys, h, ← keys_lastUses, List.rtake, List.rtake, List.map_drop, List.length_map]

end Holds

theorem find?_eq_none [LawfulBEq κ] (absent : key ∉ c.keys) : c.find? key = none := by
  refine List.lookup_eq_none_iff.mpr fun entry mem => bne_iff_ne.mpr ?_
  rintro rfl
  exact absent (List.mem_map_of_mem mem)

end Cache

end StreamTemplate
