import WebAuth.Python.Text

/-!
# JSON values

What `json.loads` builds. A dictionary is the list of its members; a member named twice in a
document has its last value only, so no name occurs twice.
-/

namespace Python

/-- A JSON value. A float is kept as its bits, for nothing here reads it. -/
inductive Json where
  | null
  | bool (b : Bool)
  | int (n : ℤ)
  | float (bits : BitVec 64)
  | str (s : Str)
  | arr (items : List Json)
  | obj (members : List (Str × Json))

/-- A Python `dict` with string keys. -/
abbrev Dict := List (Str × Json)

/-- `d.get(name)`. -/
def Dict.get (d : Dict) (name : Str) : Option Json := d.lookup name

/-- `name in d`. -/
def Dict.has (d : Dict) (name : Str) : Bool := (d.get name).isSome

/-- The string a value is. -/
def Json.string : Json → Option Str
  | .str s => some s
  | _ => none

/-- `value == s` for a string `s`. -/
def Json.isStr (value : Json) (s : Str) : Bool := value.string = some s

/-- The strings a list of strings holds. -/
def Json.strings : Json → Option (List Str)
  | .arr items => items.mapM Json.string
  | _ => none

theorem Json.string_eq_some {j : Json} {s : Str} (h : j.string = some s) : j = .str s := by
  cases j <;> simp_all [Json.string]

theorem Json.isStr_eq_true {j : Json} {s : Str} (h : j.isStr s = true) : j = .str s :=
  Json.string_eq_some (of_decide_eq_true h)

@[simp] theorem Json.string_str (s : Str) : (Json.str s).string = some s := rfl

theorem Json.strings_arr (items : List Json) :
    (Json.arr items).strings =
      if items.all (·.string.isSome) then some (items.filterMap Json.string) else none := by
  show items.mapM Json.string = _
  induction items with
  | nil => rfl
  | cons item items ih =>
    rw [List.mapM_cons, ih]
    cases item with
    | str s =>
      rw [List.all_cons, List.filterMap_cons, Json.string_str, Option.isSome_some, Bool.true_and]
      by_cases h : items.all (·.string.isSome) = true
      · rw [if_pos h, if_pos h]
        rfl
      · rw [if_neg h, if_neg h]
        rfl
    | _ => simp [Json.string]

/-- A list reads as the strings it is a list of. -/
theorem Json.strings_arr_eq_some {items : List Json} {ss : List Str} :
    (Json.arr items).strings = some ss ↔ items = ss.map .str := by
  show items.mapM Json.string = some ss ↔ _
  induction items generalizing ss with
  | nil => cases ss <;> simp
  | cons item items ih =>
    rw [List.mapM_cons, Option.bind_eq_bind, Option.bind_eq_some_iff]
    simp only [Option.bind_eq_bind, Option.bind_eq_some_iff, ih, Option.pure_def,
      Option.some.injEq]
    constructor
    · rintro ⟨s, hs, ss, rfl, rfl⟩
      rw [Json.string_eq_some hs, List.map_cons]
    · intro h
      cases ss with
      | nil => cases h
      | cons s ss =>
        obtain ⟨rfl, rfl⟩ := List.cons.inj h
        exact ⟨s, rfl, ss, rfl, rfl⟩

section Lookup

variable {α β : Type} [BEq α] [LawfulBEq α] {entries : List (α × β)} {key : α} {value : β}

theorem lookup_isSome_iff_mem :
    (entries.lookup key).isSome = true ↔ key ∈ entries.map Prod.fst := by
  rw [List.lookup_isSome_iff, List.mem_map]
  refine exists_congr fun entry => and_congr Iff.rfl ?_
  rw [beq_iff_eq, eq_comm]

/-- Where no key occurs twice, a lookup finds what is listed. -/
theorem lookup_eq_some_iff_mem (hnodup : (entries.map Prod.fst).Nodup) :
    entries.lookup key = some value ↔ (key, value) ∈ entries := by
  rw [List.lookup_eq_some_iff]
  constructor
  · rintro ⟨before, behind, rfl, -⟩
    exact List.mem_append_right _ List.mem_cons_self
  · intro hmem
    obtain ⟨before, behind, rfl⟩ := List.append_of_mem hmem
    refine ⟨before, behind, rfl, fun entry hentry => ?_⟩
    rw [List.map_append, List.map_cons, List.nodup_append] at hnodup
    have hne := hnodup.2.2 entry.1 (List.mem_map_of_mem hentry) key List.mem_cons_self
    simpa using hne.symm

end Lookup

theorem Dict.has_iff {d : Dict} {name : Str} : d.has name = true ↔ ∃ j, d.get name = some j :=
  Option.isSome_iff_exists

/-! ## The order of lists -/

/-- Two values that differ in the order of their lists, or of the lists in a dictionary. -/
inductive Json.Reordered : Json → Json → Prop
  | refl (value : Json) : Json.Reordered value value
  | arr {xs ys : List Json} (h : xs.Perm ys) : Json.Reordered (.arr xs) (.arr ys)
  | obj {xs ys : Dict} (h : ∀ name, Option.Rel Json.Reordered (xs.get name) (ys.get name)) :
      Json.Reordered (.obj xs) (.obj ys)

/-- Two dictionaries whose values differ in the order of their lists. -/
def Dict.Reordered (d d' : Dict) : Prop :=
  ∀ name, Option.Rel Json.Reordered (d.get name) (d'.get name)

theorem Json.Reordered.string_eq {v w : Json} (h : v.Reordered w) : v.string = w.string := by
  cases h <;> rfl

/-- Lists of strings stay lists of strings, of the same strings. -/
theorem Json.Reordered.strings {v w : Json} (h : v.Reordered w) :
    Option.Rel List.Perm v.strings w.strings := by
  cases h with
  | refl => cases v.strings <;> constructor; rfl
  | obj => exact .none
  | @arr xs ys hperm =>
    have hall : xs.all (·.string.isSome) = ys.all (·.string.isSome) := by
      rw [Bool.eq_iff_iff, List.all_eq_true, List.all_eq_true]
      exact forall_congr' fun item => by rw [hperm.mem_iff]
    rw [Json.strings_arr, Json.strings_arr, hall]
    split
    · exact .some (hperm.filterMap _)
    · exact .none

end Python
