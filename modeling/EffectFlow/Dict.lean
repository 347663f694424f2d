/-!
# Dictionaries

A *dictionary* is a list of entries in strictly ascending order of their keys.  So a key stands at
most once, and two dictionaries with the same look-ups are equal (`Dict.ext_get?`).

* `Dict.get?_insert` says what an insertion does to every look-up.
* `Dict.get?_filter` and `Dict.get?_map` do the same for the other operations.
* `Dict.ofList_entries` says that building a dictionary from its own entries gives it back.

Keys are ordered by code point, which is also the order of their bytes in UTF-8.
-/

namespace EffectFlow

universe u v

/-- The keys of the entries ascend strictly. -/
def Ascending {α : Type u} (entries : List (String × α)) : Prop :=
  entries.Pairwise fun a b => a.1 < b.1

instance {α : Type u} (entries : List (String × α)) : Decidable (Ascending entries) :=
  inferInstanceAs (Decidable (List.Pairwise _ _))

/-! ## Entry lists -/

namespace Entries

variable {α : Type u} {β : Type v}

/-- The value stored under a key. -/
def get? (key : String) : List (String × α) → Option α
  | [] => none
  | (k, x) :: rest => if k = key then some x else get? key rest

/-- Puts a value under a key, in order, in place of an older value of that key. -/
def insert (key : String) (value : α) : List (String × α) → List (String × α)
  | [] => [(key, value)]
  | (k, x) :: rest =>
    if key < k then (key, value) :: (k, x) :: rest
    else if key = k then (key, value) :: rest
    else (k, x) :: insert key value rest

theorem mem_insert {key : String} {value : α} {e : String × α} {entries : List (String × α)}
    (h : e ∈ insert key value entries) : e = (key, value) ∨ e ∈ entries := by
  induction entries with
  | nil => simpa [insert] using h
  | cons hd tl ih =>
    obtain ⟨k, x⟩ := hd
    simp only [insert] at h
    split at h
    · simpa using h
    · split at h
      · rcases List.mem_cons.1 h with h | h
        · exact .inl h
        · exact .inr (List.mem_cons_of_mem _ h)
      · rcases List.mem_cons.1 h with h | h
        · exact .inr (h ▸ List.mem_cons_self)
        · rcases ih h with h | h
          · exact .inl h
          · exact .inr (List.mem_cons_of_mem _ h)

/-- Insertion keeps the keys ascending. -/
theorem ascending_insert {key : String} {value : α} {entries : List (String × α)}
    (h : Ascending entries) : Ascending (insert key value entries) := by
  induction entries with
  | nil => simp [insert, Ascending]
  | cons hd tl ih =>
    obtain ⟨k, x⟩ := hd
    have hd_lt : ∀ e ∈ tl, k < e.1 := fun e he => List.rel_of_pairwise_cons h he
    have htl : Ascending tl := List.Pairwise.of_cons h
    simp only [insert]
    split
    · next lt =>
      refine List.Pairwise.cons (fun e he => ?_) h
      rcases List.mem_cons.1 he with rfl | he
      · exact lt
      · exact String.lt_trans lt (hd_lt e he)
    · next notLt =>
      split
      · next eq =>
        subst eq
        exact List.Pairwise.cons (fun e he => hd_lt e he) htl
      · next ne =>
        refine List.Pairwise.cons (fun e he => ?_) (ih htl)
        rcases mem_insert he with rfl | he
        · exact String.not_le.1 fun le => ne (String.le_antisymm le (String.not_lt.1 notLt))
        · exact hd_lt e he

/-- An insertion changes what is found under its own key only. -/
theorem get?_insert (key key' : String) (value : α) (entries : List (String × α)) :
    get? key' (insert key value entries) =
      if key = key' then some value else get? key' entries := by
  induction entries with
  | nil => simp [insert, get?]
  | cons hd tl ih =>
    obtain ⟨k, x⟩ := hd
    simp only [insert]
    split
    · simp [get?]
    · split
      · next eq => subst eq; simp only [get?]; split <;> rfl
      · next ne =>
        simp only [get?, ih]
        by_cases h : k = key'
        · subst h; simp [ne]
        · simp [h]

theorem get?_eq_none_of_forall_ne {key : String} {entries : List (String × α)}
    (h : ∀ e ∈ entries, e.1 ≠ key) : get? key entries = none := by
  induction entries with
  | nil => rfl
  | cons hd tl ih =>
    obtain ⟨k, x⟩ := hd
    simp [get?, h (k, x) List.mem_cons_self, ih fun e he => h e (List.mem_cons_of_mem _ he)]

theorem mem_of_get?_eq_some {key : String} {value : α} {entries : List (String × α)}
    (h : get? key entries = some value) : (key, value) ∈ entries := by
  induction entries with
  | nil => simp [get?] at h
  | cons hd tl ih =>
    obtain ⟨k, x⟩ := hd
    simp only [get?] at h
    split at h
    · next eq => simp_all
    · exact List.mem_cons_of_mem _ (ih h)

theorem get?_eq_some_of_mem {key : String} {value : α} {entries : List (String × α)}
    (asc : Ascending entries) (h : (key, value) ∈ entries) : get? key entries = some value := by
  induction entries with
  | nil => simp at h
  | cons hd tl ih =>
    obtain ⟨k, x⟩ := hd
    rcases List.mem_cons.1 h with eq | mem
    · simp_all [get?]
    · have lt : k < key := List.rel_of_pairwise_cons asc mem
      have ne : k ≠ key := fun eq => String.lt_irrefl key (eq ▸ lt)
      simp [get?, ne, ih (List.Pairwise.of_cons asc) mem]

theorem ext_get? {l₁ l₂ : List (String × α)} (h₁ : Ascending l₁) (h₂ : Ascending l₂)
    (h : ∀ key, get? key l₁ = get? key l₂) : l₁ = l₂ := by
  induction l₁ generalizing l₂ with
  | nil =>
    cases l₂ with
    | nil => rfl
    | cons hd tl => have := h hd.1; simp [get?] at this
  | cons a t₁ ih =>
    cases l₂ with
    | nil => have := h a.1; simp [get?] at this
    | cons b t₂ =>
      have below₁ : ∀ e ∈ t₁, a.1 < e.1 := fun e he => List.rel_of_pairwise_cons h₁ he
      have below₂ : ∀ e ∈ t₂, b.1 < e.1 := fun e he => List.rel_of_pairwise_cons h₂ he
      have mem₁ : (a.1, a.2) ∈ b :: t₂ := mem_of_get?_eq_some (by rw [← h]; simp [get?])
      have mem₂ : (b.1, b.2) ∈ a :: t₁ := mem_of_get?_eq_some (by rw [h]; simp [get?])
      have heads : a = b := by
        rcases List.mem_cons.1 mem₁ with eq | in₂
        · exact eq
        · rcases List.mem_cons.1 mem₂ with eq | in₁
          · exact eq.symm
          · exact absurd (below₁ _ in₁) (String.lt_asymm (below₂ _ in₂))
      subst heads
      refine congrArg (a :: ·)
        (ih (List.Pairwise.of_cons h₁) (List.Pairwise.of_cons h₂) fun key => ?_)
      by_cases eq : a.1 = key
      · subst eq
        rw [get?_eq_none_of_forall_ne fun e he => fun eq => String.lt_irrefl e.1 (by
              have := below₁ e he; rwa [← eq] at this),
          get?_eq_none_of_forall_ne fun e he => fun eq => String.lt_irrefl e.1 (by
              have := below₂ e he; rwa [← eq] at this)]
      · have := h key
        simpa [get?, eq] using this

end Entries

/-! ## Dictionaries -/

/-- Entries in strictly ascending order of their keys. -/
structure Dict (α : Type u) where
  /-- The entries. -/
  entries : List (String × α)
  /-- The keys ascend strictly. -/
  ascending : Ascending entries
deriving DecidableEq

namespace Dict

variable {α : Type u} {β : Type v}

/-- No entries. -/
def empty : Dict α := ⟨[], List.Pairwise.nil⟩

instance : EmptyCollection (Dict α) := ⟨empty⟩
instance : Inhabited (Dict α) := ⟨empty⟩

/-- The value stored under a key. -/
def get? (d : Dict α) (key : String) : Option α := Entries.get? key d.entries

/-- Is there a value under the key? -/
def contains (d : Dict α) (key : String) : Bool := (d.get? key).isSome

/-- Puts a value under a key, in place of an older one. -/
def insert (d : Dict α) (key : String) (value : α) : Dict α :=
  ⟨Entries.insert key value d.entries, Entries.ascending_insert d.ascending⟩

/-- The keys, ascending. -/
def keys (d : Dict α) : List String := d.entries.map Prod.fst

/-- The values, in the order of their keys. -/
def values (d : Dict α) : List α := d.entries.map Prod.snd

/-- Are there no entries? -/
def isEmpty (d : Dict α) : Bool := d.entries.isEmpty

/-- The dictionary of a list of entries; the last value of a key stays. -/
def ofList (entries : List (String × α)) : Dict α :=
  entries.foldl (fun d e => d.insert e.1 e.2) empty

/-- The entries that a test keeps. -/
def filter (d : Dict α) (keep : String → α → Bool) : Dict α :=
  ⟨d.entries.filter fun e => keep e.1 e.2, d.ascending.filter _⟩

/-- A function on every value. -/
def map (d : Dict α) (f : α → β) : Dict β :=
  ⟨d.entries.map fun e => (e.1, f e.2), by
    simpa [Ascending, List.pairwise_map] using d.ascending⟩

theorem ext_get? {d e : Dict α} (h : ∀ key, d.get? key = e.get? key) : d = e := by
  cases d; cases e
  congr
  exact Entries.ext_get? (by assumption) (by assumption) h

@[simp] theorem get?_empty (key : String) : (empty : Dict α).get? key = none := rfl

theorem get?_insert (d : Dict α) (key key' : String) (value : α) :
    (d.insert key value).get? key' = if key = key' then some value else d.get? key' :=
  Entries.get?_insert key key' value d.entries

theorem get?_eq_some_iff {d : Dict α} {key : String} {value : α} :
    d.get? key = some value ↔ (key, value) ∈ d.entries :=
  ⟨Entries.mem_of_get?_eq_some, Entries.get?_eq_some_of_mem d.ascending⟩

theorem forall_get? {d : Dict α} {P : String → α → Prop} (h : ∀ e ∈ d.entries, P e.1 e.2)
    (key : String) (value : α) (found : d.get? key = some value) : P key value :=
  h (key, value) (get?_eq_some_iff.1 found)

theorem get?_filter (d : Dict α) (keep : String → α → Bool) (key : String) :
    (d.filter keep).get? key = (d.get? key).filter (keep key) := by
  refine Option.ext fun value => ?_
  rw [get?_eq_some_iff, Option.filter_eq_some_iff, get?_eq_some_iff]
  simp [filter]

theorem get?_map (d : Dict α) (f : α → β) (key : String) :
    (d.map f).get? key = (d.get? key).map f := by
  obtain ⟨entries, asc⟩ := d
  simp only [get?, map]
  clear asc
  induction entries with
  | nil => rfl
  | cons hd tl ih =>
    obtain ⟨k, x⟩ := hd
    simp only [List.map_cons, Entries.get?]
    split <;> simp [ih]

/-- After many insertions the new entries come first, and then the old ones. -/
theorem get?_foldl_insert (entries : List (String × α)) (d : Dict α) (key : String)
    (asc : Ascending entries) :
    (entries.foldl (fun d e => d.insert e.1 e.2) d).get? key =
      (Entries.get? key entries).or (d.get? key) := by
  induction entries generalizing d with
  | nil => simp [Entries.get?]
  | cons hd tl ih =>
    obtain ⟨k, x⟩ := hd
    have below : ∀ e ∈ tl, k < e.1 := fun e he => List.rel_of_pairwise_cons asc he
    simp only [List.foldl_cons, ih _ (List.Pairwise.of_cons asc), get?_insert, Entries.get?]
    by_cases h : k = key
    · subst h
      rw [Entries.get?_eq_none_of_forall_ne fun e he eq => String.lt_irrefl e.1 (by
        have := below e he; rwa [← eq] at this)]
      simp
    · simp [h]

theorem ofList_entries (d : Dict α) : ofList d.entries = d :=
  ext_get? fun key => by
    rw [ofList, get?_foldl_insert _ _ _ d.ascending]
    simp [get?, empty, Entries.get?]

/-- What is found after many insertions was inserted or was there before. -/
theorem mem_or_get?_of_get?_foldl_insert {entries : List (String × α)} {d : Dict α} {key : String}
    {value : α} (h : (entries.foldl (fun d e => d.insert e.1 e.2) d).get? key = some value) :
    (key, value) ∈ entries ∨ d.get? key = some value := by
  induction entries generalizing d with
  | nil => exact .inr h
  | cons e rest ih =>
    rcases ih h with mem | old
    · exact .inl (List.mem_cons_of_mem _ mem)
    · rw [get?_insert] at old
      split at old
      · next eq =>
        cases e
        simp_all
      · exact .inr old

theorem mem_of_get?_ofList {entries : List (String × α)} {key : String} {value : α}
    (h : (ofList entries).get? key = some value) : (key, value) ∈ entries := by
  rcases mem_or_get?_of_get?_foldl_insert h with mem | none
  · exact mem
  · simp at none

end Dict

end EffectFlow
