/-
JSON values as trees and as the token streams a streaming decoder hands out.

`Json.tokens` writes a tree, `parse` reads a stream back, and `parse_eq_some_iff` says that the two are inverse: a stream is
accepted exactly when it is the stream of one tree with nothing behind it. `Json.DistinctKeys` is the predicate that every
object of a tree keeps its keys apart under a given reading of keys.
-/
import Mathlib.Tactic

namespace AutostreamUpdater.Base

/-- the JSON values without parts; a number is an integer literal or kept as its text -/
inductive Atom where
  | null
  | bool (b : Bool)
  | int (z : ℤ)
  | frac (literal : String)
  | str (s : String)
  deriving DecidableEq, Repr

mutual

inductive Json where
  | atom (a : Atom)
  | arr (items : Items)
  | obj (fields : Fields)

inductive Items where
  | nil
  | cons (item : Json) (rest : Items)

inductive Fields where
  | nil
  | cons (key : String) (value : Json) (rest : Fields)

end

/-- the tokens of a streaming decoder; a key is a string token like any other -/
inductive Token where
  | openObject | closeObject | openArray | closeArray
  | atom (a : Atom)
  deriving DecidableEq, Repr

/-! ## Writing and reading -/

mutual

def Json.tokens : Json → List Token
  | .atom a => [.atom a]
  | .arr items => .openArray :: (items.tokens ++ [.closeArray])
  | .obj fields => .openObject :: (fields.tokens ++ [.closeObject])

def Items.tokens : Items → List Token
  | .nil => []
  | .cons item rest => item.tokens ++ rest.tokens

def Fields.tokens : Fields → List Token
  | .nil => []
  | .cons key value rest => .atom (.str key) :: (value.tokens ++ rest.tokens)

end

mutual

/-- one value and the tokens behind it, within a fuel -/
def parseValue : ℕ → List Token → Option (Json × List Token)
  | _ + 1, .atom a :: ts => some (.atom a, ts)
  | n + 1, .openArray :: ts => (parseItems n ts).map fun r => (.arr r.1, r.2)
  | n + 1, .openObject :: ts => (parseFields n ts).map fun r => (.obj r.1, r.2)
  | _, _ => none

def parseItems : ℕ → List Token → Option (Items × List Token)
  | _ + 1, .closeArray :: ts => some (.nil, ts)
  | n + 1, ts => (parseValue n ts).bind fun v => (parseItems n v.2).map fun r => (.cons v.1 r.1, r.2)
  | 0, _ => none

def parseFields : ℕ → List Token → Option (Fields × List Token)
  | _ + 1, .closeObject :: ts => some (.nil, ts)
  | n + 1, .atom (.str key) :: ts =>
    (parseValue n ts).bind fun v => (parseFields n v.2).map fun r => (.cons key v.1 r.1, r.2)
  | _, _ => none

end

/-- the tree of a stream that holds exactly one value -/
def parse (ts : List Token) : Option Json :=
  match parseValue (ts.length + 1) ts with
  | some (j, []) => some j
  | _ => none

/-! ## The two are inverse -/

theorem Json.tokens_length_pos (j : Json) : 0 < j.tokens.length := by
  cases j <;> simp [Json.tokens]

mutual

theorem parseValue_tokens (j : Json) (n : ℕ) (rest : List Token) (h : j.tokens.length < n) :
    parseValue n (j.tokens ++ rest) = some (j, rest) := by
  obtain ⟨n, rfl⟩ : ∃ m, n = m + 1 := ⟨n - 1, by omega⟩
  cases j with
  | atom a => rfl
  | arr items =>
    simp only [Json.tokens, List.length_cons, List.length_append] at h
    have := parseItems_tokens items n rest (by omega)
    simp [Json.tokens, parseValue, this]
  | obj fields =>
    simp only [Json.tokens, List.length_cons, List.length_append] at h
    have := parseFields_tokens fields n rest (by omega)
    simp [Json.tokens, parseValue, this]

theorem parseItems_tokens (items : Items) (n : ℕ) (rest : List Token) (h : items.tokens.length + 1 < n) :
    parseItems n (items.tokens ++ .closeArray :: rest) = some (items, rest) := by
  obtain ⟨n, rfl⟩ : ∃ m, n = m + 1 := ⟨n - 1, by omega⟩
  cases items with
  | nil => rfl
  | cons item items =>
    have hpos := item.tokens_length_pos
    simp only [Items.tokens, List.length_append] at h
    have hitem := parseValue_tokens item n (items.tokens ++ .closeArray :: rest) (by omega)
    have hitems := parseItems_tokens items n rest (by omega)
    -- a value never begins with a closing bracket
    have hstep : ∀ ts, parseItems (n + 1) (item.tokens ++ ts) =
        (parseValue n (item.tokens ++ ts)).bind fun v => (parseItems n v.2).map fun r => (.cons v.1 r.1, r.2) := by
      intro ts
      cases item <;> simp [Json.tokens, parseItems]
    rw [Items.tokens, List.append_assoc, hstep, hitem]
    simp [hitems]

theorem parseFields_tokens (fields : Fields) (n : ℕ) (rest : List Token) (h : fields.tokens.length < n) :
    parseFields n (fields.tokens ++ .closeObject :: rest) = some (fields, rest) := by
  obtain ⟨n, rfl⟩ : ∃ m, n = m + 1 := ⟨n - 1, by omega⟩
  cases fields with
  | nil => rfl
  | cons key value fields =>
    simp only [Fields.tokens, List.length_cons, List.length_append] at h
    have hvalue := parseValue_tokens value n (fields.tokens ++ .closeObject :: rest) (by omega)
    have hfields := parseFields_tokens fields n rest (by omega)
    simp [Fields.tokens, parseFields, hvalue, hfields]

end

/-- whatever is read is the writing of the tree in front of the rest -/
theorem parse_sound (n : ℕ) :
    (∀ ts j rest, parseValue n ts = some (j, rest) → ts = j.tokens ++ rest) ∧
    (∀ ts items rest, parseItems n ts = some (items, rest) → ts = items.tokens ++ .closeArray :: rest) ∧
    ∀ ts fields rest, parseFields n ts = some (fields, rest) → ts = fields.tokens ++ .closeObject :: rest := by
  induction n with
  | zero => simp [parseValue, parseItems, parseFields]
  | succ n ih =>
    obtain ⟨ihValue, ihItems, ihFields⟩ := ih
    refine ⟨fun ts j rest h => ?_, fun ts items rest h => ?_, fun ts fields rest h => ?_⟩
    · match ts, h with
      | [], h => simp [parseValue] at h
      | .closeObject :: _, h => simp [parseValue] at h
      | .closeArray :: _, h => simp [parseValue] at h
      | .atom a :: ts, h =>
        obtain ⟨rfl, rfl⟩ : .atom a = j ∧ ts = rest := by simpa [parseValue] using h
        rfl
      | .openArray :: ts, h =>
        obtain ⟨items, hitems, rfl⟩ : ∃ items, parseItems n ts = some (items, rest) ∧ .arr items = j := by
          simpa [parseValue] using h
        simp [Json.tokens, ihItems ts items rest hitems]
      | .openObject :: ts, h =>
        obtain ⟨fields, hfields, rfl⟩ : ∃ fields, parseFields n ts = some (fields, rest) ∧ .obj fields = j := by
          simpa [parseValue] using h
        simp [Json.tokens, ihFields ts fields rest hfields]
    · by_cases hclose : ∃ ts', ts = .closeArray :: ts'
      · obtain ⟨ts', rfl⟩ := hclose
        obtain ⟨rfl, rfl⟩ : .nil = items ∧ ts' = rest := by simpa [parseItems] using h
        rfl
      · have hstep : parseItems (n + 1) ts =
            (parseValue n ts).bind fun v => (parseItems n v.2).map fun r => (.cons v.1 r.1, r.2) := by
          rw [parseItems]
          intro ts' hts
          exact hclose ⟨ts', hts⟩
        rw [hstep] at h
        obtain ⟨⟨item, ts'⟩, hitem, hrest⟩ := Option.bind_eq_some_iff.1 h
        obtain ⟨⟨items', ts''⟩, hitems, heq⟩ := Option.map_eq_some_iff.1 hrest
        obtain ⟨rfl, rfl⟩ := Prod.mk.inj heq
        rw [ihValue ts item ts' hitem, ihItems ts' items' ts'' hitems]
        simp [Items.tokens]
    · match ts, h with
      | [], h => simp [parseFields] at h
      | .openObject :: _, h => simp [parseFields] at h
      | .openArray :: _, h => simp [parseFields] at h
      | .closeArray :: _, h => simp [parseFields] at h
      | .closeObject :: ts, h =>
        obtain ⟨rfl, rfl⟩ : .nil = fields ∧ ts = rest := by simpa [parseFields] using h
        rfl
      | .atom (.str key) :: ts, h =>
        rw [parseFields] at h
        obtain ⟨⟨value, ts'⟩, hvalue, hrest⟩ := Option.bind_eq_some_iff.1 h
        obtain ⟨⟨fields', ts''⟩, hfields, heq⟩ := Option.map_eq_some_iff.1 hrest
        obtain ⟨rfl, rfl⟩ := Prod.mk.inj heq
        rw [ihValue ts value ts' hvalue, ihFields ts' fields' ts'' hfields]
        simp [Fields.tokens]
      | .atom .null :: _, h => simp [parseFields] at h
      | .atom (.bool _) :: _, h => simp [parseFields] at h
      | .atom (.int _) :: _, h => simp [parseFields] at h
      | .atom (.frac _) :: _, h => simp [parseFields] at h

/-- A stream is accepted exactly when it is the stream of a tree. -/
theorem parse_eq_some_iff {ts : List Token} {j : Json} : parse ts = some j ↔ ts = j.tokens := by
  constructor
  · intro h
    unfold parse at h
    split at h
    · next j' heq =>
      cases h
      simpa using (parse_sound _).1 ts j [] heq
    · cases h
  · rintro rfl
    have := parseValue_tokens j (j.tokens.length + 1) [] (by omega)
    rw [List.append_nil] at this
    simp [parse, this]

/-! ## Keys -/

/-- the keys of an object, in their order -/
def Fields.keys : Fields → List String
  | .nil => []
  | .cons key _ rest => key :: rest.keys

mutual

/-- in every object the keys are told apart by `read` -/
def Json.DistinctKeys (read : String → String) : Json → Prop
  | .atom _ => True
  | .arr items => items.DistinctKeys read
  | .obj fields => (fields.keys.map read).Nodup ∧ fields.DistinctKeys read

def Items.DistinctKeys (read : String → String) : Items → Prop
  | .nil => True
  | .cons item rest => item.DistinctKeys read ∧ rest.DistinctKeys read

def Fields.DistinctKeys (read : String → String) : Fields → Prop
  | .nil => True
  | .cons _ value rest => value.DistinctKeys read ∧ rest.DistinctKeys read

end

end AutostreamUpdater.Base
