/-
Records as JSON objects.

A record is written as the rows of its fields, a row without a value being left out, and read back by field name. A key stands
for the field of its exact name, else for the first one whose name folds like it; a key that stands for none is refused.
`readRecord_record`: reading the rows of a record finds each row again. `record_distinctKeys`: what is written repeats no key.
-/
import AutostreamUpdater.Base.Json

namespace AutostreamUpdater.Base

/-- the rows of a record; `none` is a field that is left out -/
abbrev Rows := List (String × Option Json)

def fieldsOf : Rows → Fields
  | [] => .nil
  | (key, some value) :: rows => .cons key value (fieldsOf rows)
  | (_, none) :: rows => fieldsOf rows

def Json.record (rows : Rows) : Json := .obj (fieldsOf rows)

section Reading

variable (fold : String → String) (names : List String) {α : Type}

/-- the field a key stands for -/
def standsFor (key : String) : Option String :=
  (names.find? (· == key)).or (names.find? fun name => fold name == fold key)

/-- the value of a field; of several keys that stand for it the last counts -/
def Fields.member (name : String) : Fields → Option Json
  | .nil => none
  | .cons key value rest =>
    (rest.member name).or (if standsFor fold names key = some name then some value else none)

/-- read a record through its fields; `null` leaves all of them out -/
def readRecord (read : (String → Option Json) → Option α) : Json → Option α
  | .atom .null => read fun _ => none
  | .obj fields =>
    if fields.keys.all fun key => (standsFor fold names key).isSome then read fun name => fields.member fold names name
    else none
  | _ => none

end Reading

section Rows

variable {fold : String → String} {names : List String} {α : Type}

theorem standsFor_self {key : String} (h : key ∈ names) : standsFor fold names key = some key := by
  have hfound : names.find? (· == key) = some key := by
    cases hfind : names.find? (· == key) with
    | none => simpa using List.find?_eq_none.1 hfind key h
    | some found => simpa using List.find?_some hfind
  rw [standsFor, hfound]
  rfl

theorem fieldsOf_keys (rows : Rows) : (fieldsOf rows).keys.Sublist (rows.map (·.1)) := by
  induction rows with
  | nil => exact .slnil
  | cons row rows ih =>
    obtain ⟨key, _ | value⟩ := row
    · exact ih.cons _
    · exact ih.cons_cons _

/-- a key that is not repeated stands for its own row -/
theorem member_fieldsOf (rows : Rows) (hnames : ∀ row ∈ rows, row.1 ∈ names) (hdistinct : (rows.map (·.1)).Nodup)
    (name : String) : (fieldsOf rows).member fold names name = (rows.lookup name).join := by
  induction rows with
  | nil => rfl
  | cons row rows ih =>
    obtain ⟨key, value⟩ := row
    rw [List.map_cons, List.nodup_cons] at hdistinct
    have hrest := ih (fun row hrow => hnames row (List.mem_cons_of_mem _ hrow)) hdistinct.2
    have hself : standsFor fold names key = some key := standsFor_self (hnames _ List.mem_cons_self)
    by_cases hkey : name = key
    · subst hkey
      have hnone : rows.lookup name = none := by
        rw [List.lookup_eq_none_iff]
        rintro ⟨other, value⟩ hrow
        rw [bne_iff_ne]
        rintro rfl
        exact hdistinct.1 (List.mem_map.2 ⟨_, hrow, rfl⟩)
      rw [hnone] at hrest
      cases value <;> simp [fieldsOf, Fields.member, hrest, hself]
    · have hother : (name == key) = false := by simpa using hkey
      have hself : ¬ standsFor fold names key = some name := by
        rw [hself]
        simpa using fun h => hkey h.symm
      cases value <;> simp [fieldsOf, Fields.member, hrest, hself, List.lookup_cons, hother]

/-- **A record is read back.** Every field is found in its row. -/
theorem readRecord_record {rows : Rows} (hnames : rows.map (·.1) = names) (hdistinct : names.Nodup)
    (read : (String → Option Json) → Option α) :
    readRecord fold names read (Json.record rows) = read fun name => (rows.lookup name).join := by
  have hmem : ∀ row ∈ rows, row.1 ∈ names := fun row hrow => hnames ▸ List.mem_map_of_mem hrow
  have hknown : ((fieldsOf rows).keys.all fun key => (standsFor fold names key).isSome) = true := by
    rw [List.all_eq_true]
    intro key hkey
    rw [standsFor_self (hnames ▸ (fieldsOf_keys rows).mem hkey)]
    rfl
  simp only [Json.record, readRecord, hknown, if_true, member_fieldsOf rows hmem (hnames ▸ hdistinct)]

/-- the value, if there is one, repeats no key in any object -/
def Clean (o : Option Json) : Prop := ∀ value, o = some value → value.DistinctKeys id

theorem fieldsOf_distinctKeys {rows : Rows} (h : ∀ row ∈ rows, Clean row.2) : (fieldsOf rows).DistinctKeys id := by
  induction rows with
  | nil => trivial
  | cons row rows ih =>
    have hrest := ih fun row hrow => h row (List.mem_cons_of_mem _ hrow)
    obtain ⟨key, _ | value⟩ := row
    · exact hrest
    · exact ⟨h _ List.mem_cons_self value rfl, hrest⟩

theorem record_distinctKeys {rows : Rows} (hnames : rows.map (·.1) = names) (hdistinct : names.Nodup)
    (h : ∀ row ∈ rows, Clean row.2) : (Json.record rows).DistinctKeys id := by
  refine ⟨?_, fieldsOf_distinctKeys h⟩
  rw [List.map_id]
  exact (fieldsOf_keys rows).nodup (hnames ▸ hdistinct)

end Rows

/-! ## Values of fields

A missing value and `null` leave the empty one; `textIf`, `intIf` and `listIf` leave the empty one out. -/

section Values

variable {α : Type}

def Json.str (s : String) : Json := .atom (.str s)

def text (s : String) : Option Json := some (.str s)
def textIf (s : String) : Option Json := if s = "" then none else text s
def int (z : ℤ) : Option Json := some (.atom (.int z))
def intIf (z : ℤ) : Option Json := if z = 0 then none else int z

def Items.ofList : List Json → Items
  | [] => .nil
  | item :: items => .cons item (Items.ofList items)

def Items.toList : Items → List Json
  | .nil => []
  | .cons item items => item :: items.toList

def list (write : α → Json) (l : List α) : Option Json := some (.arr (Items.ofList (l.map write)))

def listIf (write : α → Json) (l : List α) : Option Json := if l.isEmpty then none else list write l

def readText : Option Json → Option String
  | none | some (.atom .null) => some ""
  | some (.atom (.str s)) => some s
  | _ => none

def readInt : Option Json → Option ℤ
  | none | some (.atom .null) => some 0
  | some (.atom (.int z)) => some z
  | _ => none

def readPointer (read : Json → Option α) : Option Json → Option (Option α)
  | none | some (.atom .null) => some none
  | some j => (read j).map some

def readList (read : Json → Option α) : Option Json → Option (List α)
  | none | some (.atom .null) => some []
  | some (.arr items) => items.toList.mapM read
  | _ => none

@[simp] theorem readText_text (s : String) : readText (text s) = some s := rfl
@[simp] theorem readInt_int (z : ℤ) : readInt (int z) = some z := rfl

@[simp] theorem readText_textIf (s : String) : readText (textIf s) = some s := by
  unfold textIf
  split_ifs with h
  · rw [h]; rfl
  · rfl

@[simp] theorem readInt_intIf (z : ℤ) : readInt (intIf z) = some z := by
  unfold intIf
  split_ifs with h
  · rw [h]; rfl
  · rfl

theorem Items.toList_ofList (l : List Json) : (Items.ofList l).toList = l := by
  induction l with
  | nil => rfl
  | cons item items ih => rw [Items.ofList, Items.toList, ih]

variable {read : Json → Option α} {write : α → Json}

theorem readList_list (h : ∀ a, read (write a) = some a) (l : List α) : readList read (list write l) = some l := by
  simp only [readList, list, Items.toList_ofList]
  induction l with
  | nil => rfl
  | cons a l ih => simp [List.mapM_cons, h, ih]

theorem readList_listIf (h : ∀ a, read (write a) = some a) (l : List α) : readList read (listIf write l) = some l := by
  cases l with
  | nil => rfl
  | cons a l => exact readList_list h (a :: l)

theorem readPointer_map {rows : α → Rows} (h : ∀ a, read (.record (rows a)) = some a) (o : Option α) :
    readPointer read (o.map fun a => .record (rows a)) = some o := by
  cases o with
  | none => rfl
  | some a => exact congrArg (Option.map some) (h a)

theorem clean_some {value : Json} (h : value.DistinctKeys id) : Clean (some value) := fun _ heq => Option.some.inj heq ▸ h

@[simp] theorem clean_text (s : String) : Clean (text s) := clean_some trivial
@[simp] theorem clean_int (z : ℤ) : Clean (int z) := clean_some trivial

@[simp] theorem clean_textIf (s : String) : Clean (textIf s) := by
  unfold textIf
  split_ifs
  · exact nofun
  · exact clean_text s

@[simp] theorem clean_intIf (z : ℤ) : Clean (intIf z) := by
  unfold intIf
  split_ifs
  · exact nofun
  · exact clean_int z

theorem clean_map (h : ∀ a, (write a).DistinctKeys id) (o : Option α) : Clean (o.map write) := by
  intro value hvalue
  obtain ⟨a, -, rfl⟩ := Option.map_eq_some_iff.1 hvalue
  exact h a

theorem clean_list (h : ∀ a, (write a).DistinctKeys id) (l : List α) : Clean (list write l) := by
  intro value hvalue
  cases hvalue
  show (Items.ofList (l.map write)).DistinctKeys id
  induction l with
  | nil => trivial
  | cons a l ih => exact ⟨h a, ih⟩

theorem clean_listIf (h : ∀ a, (write a).DistinctKeys id) (l : List α) : Clean (listIf write l) := by
  cases l with
  | nil => exact nofun
  | cons a l => exact clean_list h (a :: l)

end Values

end AutostreamUpdater.Base
