import Mathlib.Data.List.AList

/-! Maps whose keys have no order: association lists with distinct keys. A sweep visits every
entry; what it leaves and what it gives out under one key depend on the entry there alone. -/
namespace CheetahSignaling

open List Function

abbrev KeyMap (K V : Type) := AList fun _ : K => V

namespace KeyMap

variable {K V β : Type}

def sweepEntries (f : K → V → Option V) (entries : List (Sigma fun _ : K => V)) : List (Sigma fun _ : K => V) :=
  entries.filterMap fun entry => (f entry.1 entry.2).map (Sigma.mk entry.1)

theorem sweepEntries_cons :
    sweepEntries f (⟨key,v⟩ :: rest) = ((f key v).map (Sigma.mk key)).toList ++ sweepEntries f rest := by
  unfold sweepEntries
  cases left : f key v <;> simp [left]

theorem keys_sweepEntries (f : K → V → Option V) :
    (sweepEntries f entries).keys.Sublist entries.keys := by
  induction entries with
  | nil => exact .slnil
  | cons entry rest ih =>
    rw [sweepEntries_cons]
    cases f entry.1 entry.2 with
    | none => exact ih.cons entry.1
    | some v => exact ih.cons_cons entry.1

def sweep (f : K → V → Option V) (m : KeyMap K V) : KeyMap K V :=
  ⟨sweepEntries f m.entries,List.Nodup.sublist (keys_sweepEntries f) m.nodupKeys⟩

def gather (out : K → V → List β) (m : KeyMap K V) : List (K × β) :=
  m.entries.flatMap fun entry => (out entry.1 entry.2).map (entry.1,·)

variable [DecidableEq K]

theorem dlookup_other {entries : List (Sigma fun _ : K => V)} (apart : k ≠ key) :
    List.dlookup k (⟨key,v⟩ :: entries) = entries.dlookup k :=
  dlookup_cons_ne entries ⟨key,v⟩ apart

theorem dlookup_sweepEntries (entries : List (Sigma fun _ : K => V)) (distinct : entries.NodupKeys) :
    (sweepEntries f entries).dlookup k = (entries.dlookup k).bind (f k) := by
  induction entries with
  | nil => rfl
  | cons entry rest ih =>
    obtain ⟨key,v⟩ := entry
    obtain ⟨fresh,distinct⟩ := nodupKeys_cons.mp distinct
    rw [sweepEntries_cons]
    by_cases same : k = key
    · subst same
      rw [dlookup_cons_eq,Option.bind_some]
      cases f k v with
      | none =>
        have absent : k ∉ (sweepEntries f rest).keys := fun member => fresh ((keys_sweepEntries f).subset member)
        exact dlookup_eq_none.mpr absent
      | some w => simp
    rw [dlookup_other same,← ih distinct]
    cases f key v with
    | none => rfl
    | some w => exact dlookup_other same

@[simp] theorem lookup_sweep (m : KeyMap K V) :
    (m.sweep f).lookup k = (m.lookup k).bind (f k) :=
  dlookup_sweepEntries m.entries m.nodupKeys

/-- The part of a list of tagged values that stands under one key. -/
def under (k : K) (tagged : List (K × β)) : List β := tagged.filterMap fun (key,b) => if key = k then some b else none

@[simp] theorem under_append (k : K) (first rest : List (K × β)) : under k (first ++ rest) = under k first ++ under k rest :=
  filterMap_append

@[simp] theorem under_map_same (k : K) : under k (values.map (k,·)) = values := by
  simp [under]

@[simp] theorem under_map_other {k key : K} (apart : key ≠ k) (values : List β) : under k (values.map (key,·)) = [] := by
  simp [under,apart]

theorem mem_under {k : K} {b : β} {tagged : List (K × β)} : b ∈ under k tagged ↔ (k,b) ∈ tagged := by
  simp [under]

theorem nodup_of_under {tagged : List (K × β)} (distinct : ∀ k, (under k tagged).Nodup) : tagged.Nodup := by
  induction tagged with
  | nil => exact .nil
  | cons entry tagged ih =>
    obtain ⟨key,b⟩ := entry
    have split (k : K) : under k ((key,b) :: tagged) = under k [(key,b)] ++ under k tagged := under_append k [(key,b)] tagged
    refine nodup_cons.mpr ⟨fun again => ?_,ih fun k => ?_⟩
    · have twice := distinct key
      rw [split] at twice
      exact disjoint_of_nodup_append twice (mem_under.mpr (mem_singleton_self _)) (mem_under.mpr again)
    · have all := distinct k
      rw [split] at all
      exact all.of_append_right

theorem under_gather (out : K → V → List β) (m : KeyMap K V) (k : K) :
    under k (m.gather out) = ((m.lookup k).map (out k)).getD [] := by
  obtain ⟨entries,distinct⟩ := m
  simp only [gather,AList.lookup]
  induction entries with
  | nil => rfl
  | cons entry rest ih =>
    obtain ⟨key,v⟩ := entry
    obtain ⟨fresh,distinct⟩ := nodupKeys_cons.mp distinct
    rw [flatMap_cons,under_append,ih distinct]
    by_cases same : key = k
    · subst same
      simp [dlookup_eq_none.mpr fresh]
    · rw [under_map_other same,dlookup_other (Ne.symm same),nil_append]

theorem lookup_insert_eq (m : KeyMap K V) (other : K) : (m.insert k v).lookup other = update (m.lookup ·) k (some v) other := by
  by_cases same : other = k
  · rw [same,update_self,AList.lookup_insert]
  · rw [update_of_ne same,AList.lookup_insert_ne same]

theorem lookup_erase_eq (m : KeyMap K V) (other : K) : (m.erase k).lookup other = update (m.lookup ·) k none other := by
  by_cases same : other = k
  · rw [same,update_self,AList.lookup_erase]
  · rw [update_of_ne same,AList.lookup_erase_ne same]

def makeRoom (ended : V → Bool) (used : V → Nat) (capacity : Nat) (m : KeyMap K V) : KeyMap K V :=
  if capacity = 0 ∨ m.entries.length < capacity then m
  else
    match m.entries.find? fun entry => ended entry.2 with
    | some entry => m.erase entry.1
    | none =>
      match m.entries.minOn? fun entry => used entry.2 with
      | some entry => m.erase entry.1
      | none => m

theorem lookup_makeRoom (k : K) :
    (makeRoom ended used capacity m).lookup k = m.lookup k ∨
      ((makeRoom ended used capacity m).lookup k = none ∧ ¬(capacity = 0 ∨ m.entries.length < capacity)) := by
  have erased (key : K) : (m.erase key).lookup k = m.lookup k ∨ (m.erase key).lookup k = none := by
    by_cases same : k = key
    · exact .inr (same ▸ AList.lookup_erase key m)
    · exact .inl (AList.lookup_erase_ne same)
  unfold makeRoom
  split
  · exact .inl rfl
  rename_i full
  split
  · exact (erased _).imp_right fun gone => ⟨gone,full⟩
  · split
    · exact (erased _).imp_right fun gone => ⟨gone,full⟩
    · exact .inl rfl

end KeyMap

end CheetahSignaling
