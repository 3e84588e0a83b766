/-
The strict decoder of a port plan, `SystemdPortReconfigurePlan.UnmarshalJSON`.

It reads the text three times: `rejectPortDuplicateJSONKeys` walks the tokens and compares the keys of each object as they
are written, `encoding/json` decodes with unknown fields refused, and the top-level keys decide which contract the plan may
mix. `encoding/json` looks a key up by its exact name first and by its folded name then, so two keys the scanner tells apart
can stand for one field. The decoder is modelled by the assignments it makes, in order; the plan it leaves is what they
leave, so a field is determined by one key exactly when one assignment addresses it.

The shared contract types are not part of the repository: their schemas are parameters.
-/
import AutostreamUpdater.Contract.Port
import AutostreamUpdater.Base.Json

namespace AutostreamUpdater.Contract

open Base

/-! ## The scanner -/

mutual

/-- `readValue`: the tokens behind one value, `none` on an error -/
def readValue : ℕ → List Token → Option (List Token)
  | _ + 1, .atom _ :: ts => some ts
  | n + 1, .openObject :: ts => readMembers n [] ts
  | n + 1, .openArray :: ts => readElements n ts
  | _, _ => none

/-- the object loop of `readValue`, with the keys seen so far -/
def readMembers : ℕ → List String → List Token → Option (List Token)
  | _ + 1, _, .closeObject :: ts => some ts
  | n + 1, seen, .atom (.str name) :: ts =>
    if seen.contains name then none else (readValue n ts).bind fun ts => readMembers n (name :: seen) ts
  | _, _, _ => none

/-- the array loop of `readValue` -/
def readElements : ℕ → List Token → Option (List Token)
  | _ + 1, .closeArray :: ts => some ts
  | n + 1, ts => (readValue n ts).bind fun ts => readElements n ts
  | 0, _ => none

end

/-- `rejectPortDuplicateJSONKeys`, true for no error -/
def rejectPortDuplicateJSONKeys (ts : List Token) : Bool := readValue (ts.length + 1) ts == some []

/-! ## Field matching -/

/-- `foldRune`: the smallest character of a case-folding set; a set without an ASCII letter never meets a field name -/
def foldRune (c : Char) : Char :=
  -- the long s and the Kelvin sign fold with ASCII letters
  if c.toNat == 0x17f then 'S' else if c.toNat == 0x212a then 'K' else c.toUpper

/-- `foldName` -/
def foldName (s : String) : String := String.ofList (s.toList.map foldRune)

mutual

/-- the type a value is decoded into: a scalar with the literals it takes, or a struct with its named fields -/
inductive Schema where
  | scalar (accepts : Atom → Bool)
  | struct (members : Members)

inductive Members where
  | nil
  | cons (name : String) (type : Schema) (rest : Members)

end

namespace Members

def names : Members → List String
  | .nil => []
  | .cons name _ rest => name :: rest.names

/-- the first field whose name passes -/
def find (p : String → Bool) : Members → Option (String × Schema)
  | .nil => none
  | .cons name type rest => if p name then some (name, type) else rest.find p

/-- the field of a key: by its exact name, else by its folded name -/
def resolve (members : Members) (key : String) : Option (String × Schema) :=
  (members.find (· == key)).or (members.find fun name => foldName name == foldName key)

end Members

mutual

/-- no two fields of a struct have names that fold together -/
def Schema.FoldsDistinct : Schema → Prop
  | .scalar _ => True
  | .struct members => (members.names.map foldName).Nodup ∧ members.FoldsDistinct

def Members.FoldsDistinct : Members → Prop
  | .nil => True
  | .cons _ type rest => type.FoldsDistinct ∧ rest.FoldsDistinct

end

/-! ## Decoding -/

/-- one key of the text: the field it addresses, where it stands, and its value if that is a literal -/
structure Assignment where
  field : List String
  key : List String
  value : Option Atom
  deriving DecidableEq, Repr

/-- the literal a value is -/
def literal : Json → Option Atom
  | .atom a => some a
  | _ => none

mutual

/-- the assignments of a value that is decoded into `type`; `null` leaves what it meets and every other mismatch is an error -/
def decode (type : Schema) (field key : List String) : Json → Option (List Assignment)
  | .atom a => match type with
    | .scalar accepts => if a == .null || accepts a then some [] else none
    | .struct _ => if a == .null then some [] else none
  | .arr _ => none
  | .obj fields => match type with
    | .scalar _ => none
    | .struct members => decodeFields members field key fields

def decodeFields (members : Members) (field key : List String) : Fields → Option (List Assignment)
  | .nil => some []
  | .cons k value rest => match members.resolve k with
    | none => none
    | some (name, type) =>
      (decode type (field ++ [name]) (key ++ [k]) value).bind fun inner =>
        (decodeFields members field key rest).map fun others =>
          ⟨field ++ [name], key ++ [k], literal value⟩ :: (inner ++ others)

end

/-! ## The plan -/

def textSchema : Schema := .scalar fun a => match a with
  | .str _ => true
  | _ => false

/-- `int` and `int64` -/
def intSchema : Schema := .scalar fun a => match a with
  | .int z => -2 ^ 63 ≤ z && z < 2 ^ 63
  | _ => false

/-- `uint64` -/
def uintSchema : Schema := .scalar fun a => match a with
  | .int z => 0 ≤ z && z < 2 ^ 64
  | _ => false

def membersOf : List (String × Schema) → Members
  | [] => .nil
  | (name, type) :: rest => .cons name type (membersOf rest)

/-- the JSON names of `DockerPortMutationGrantBinding` -/
def dockerBindingSchema : Schema := .struct <| membersOf [("published_host_ip", textSchema),
  ("old_published_port", intSchema), ("new_published_port", intSchema), ("old_container_port", intSchema),
  ("new_container_port", intSchema), ("old_health_port", intSchema), ("new_health_port", intSchema),
  ("approved_compose_config_sha256", textSchema), ("approved_compose_revision", intSchema),
  ("expected_version_env_sha256", textSchema), ("expected_container_id", textSchema), ("expected_image_id", textSchema),
  ("expected_repository_digest", textSchema)]

/-- the JSON names of `SystemdPortReconfigurePlan`, over the schemas of the contract's snapshot and Docker baseline -/
def planMembers (snapshot baseline : Schema) : Members := membersOf [("port_contract_version", intSchema),
  ("mode", textSchema), ("before", snapshot), ("target", snapshot), ("rollback", snapshot), ("docker_baseline", baseline),
  ("port_intent_sha256", textSchema), ("deployment_mode", textSchema), ("job_id", textSchema), ("host_id", textSchema),
  ("target_id", textSchema), ("service_type", textSchema), ("network_namespace", textSchema), ("protocol", textSchema),
  ("old_port", intSchema), ("new_port", intSchema), ("expected_endpoint_revision", intSchema),
  ("target_endpoint_revision", intSchema), ("expected_config_revision", intSchema), ("target_config_revision", intSchema),
  ("expected_config_sha256", textSchema), ("target_config_sha256", textSchema),
  ("expected_source_policy_revision", intSchema), ("expected_updater_policy_revision", intSchema),
  ("expected_executor_policy_revision", intSchema), ("expected_executor_policy_sha256", textSchema),
  ("ownership_epoch", intSchema), ("lease_generation", uintSchema), ("session_id", textSchema),
  ("port_plan_sha256", textSchema), ("docker", dockerBindingSchema)]

/-- the fields a plan of contract version 2 may not mention -/
def legacyFields : List String := ["old_port", "new_port", "expected_endpoint_revision", "target_endpoint_revision",
  "expected_config_revision", "target_config_revision", "expected_config_sha256", "target_config_sha256",
  "expected_source_policy_revision", "expected_updater_policy_revision", "expected_executor_policy_revision",
  "expected_executor_policy_sha256", "docker"]

/-- the keys of the object itself -/
def topKeys : Json → List String
  | .obj fields => fields.keys
  | _ => []

/-- the contract version the assignments leave; `null` changes nothing -/
def decodedVersion (decoded : List Assignment) : ℤ :=
  decoded.foldl (fun version a => match a.field == ["port_contract_version"], a.value with
    | true, some (.int z) => z
    | _, _ => version) 0

/-- `UnmarshalJSON`, on the tokens of the text: the assignments it makes, `none` on an error -/
def unmarshalJSON (snapshot baseline : Schema) (ts : List Token) : Option (List Assignment) :=
  if !rejectPortDuplicateJSONKeys ts then none
  else (parse ts).bind fun j => (decode (.struct (planMembers snapshot baseline)) [] [] j).bind fun decoded =>
    if (topKeys j).contains "port_contract_version" &&
        (decodedVersion decoded != 2 || legacyFields.any fun field => (topKeys j).contains field) then none
    else some decoded

/-! ## What the scanner rejects -/

mutual

/-- the scanner passes exactly the values whose objects repeat no key as it is written -/
theorem readValue_tokens (j : Json) (n : ℕ) (rest : List Token) (h : j.tokens.length < n) :
    (readValue n (j.tokens ++ rest) = some rest ∧ j.DistinctKeys id) ∨
      (readValue n (j.tokens ++ rest) = none ∧ ¬ j.DistinctKeys id) := by
  obtain ⟨n, rfl⟩ : ∃ m, n = m + 1 := ⟨n - 1, by omega⟩
  cases j with
  | atom a => exact .inl ⟨rfl, trivial⟩
  | arr items =>
    simp only [Json.tokens, List.length_cons, List.length_append] at h
    have := readElements_tokens items n rest (by omega)
    simpa [Json.tokens, readValue, Json.DistinctKeys] using this
  | obj fields =>
    simp only [Json.tokens, List.length_cons, List.length_append] at h
    have := readMembers_tokens fields n [] rest (by omega)
    simpa [Json.tokens, readValue, Json.DistinctKeys] using this

theorem readElements_tokens (items : Items) (n : ℕ) (rest : List Token) (h : items.tokens.length + 1 < n) :
    (readElements n (items.tokens ++ .closeArray :: rest) = some rest ∧ items.DistinctKeys id) ∨
      (readElements n (items.tokens ++ .closeArray :: rest) = none ∧ ¬ items.DistinctKeys id) := by
  obtain ⟨n, rfl⟩ : ∃ m, n = m + 1 := ⟨n - 1, by omega⟩
  cases items with
  | nil => exact .inl ⟨rfl, trivial⟩
  | cons item items =>
    have hpos := item.tokens_length_pos
    simp only [Items.tokens, List.length_append] at h
    have hstep : ∀ ts, readElements (n + 1) (item.tokens ++ ts) =
        (readValue n (item.tokens ++ ts)).bind fun ts => readElements n ts := by
      intro ts
      cases item <;> simp [Json.tokens, readElements]
    rw [Items.tokens, List.append_assoc, hstep]
    rcases readValue_tokens item n (items.tokens ++ .closeArray :: rest) (by omega) with ⟨hread, hitem⟩ | ⟨hread, hitem⟩
    · rw [hread]
      rcases readElements_tokens items n rest (by omega) with ⟨hrest, hitems⟩ | ⟨hrest, hitems⟩
      · exact .inl ⟨hrest, hitem, hitems⟩
      · exact .inr ⟨hrest, fun hd => hitems hd.2⟩
    · rw [hread]
      exact .inr ⟨rfl, fun hd => hitem hd.1⟩

theorem readMembers_tokens (fields : Fields) (n : ℕ) (seen : List String) (rest : List Token)
    (h : fields.tokens.length < n) :
    (readMembers n seen (fields.tokens ++ .closeObject :: rest) = some rest ∧
        (∀ k ∈ fields.keys, k ∉ seen) ∧ fields.keys.Nodup ∧ fields.DistinctKeys id) ∨
      (readMembers n seen (fields.tokens ++ .closeObject :: rest) = none ∧
        ¬ ((∀ k ∈ fields.keys, k ∉ seen) ∧ fields.keys.Nodup ∧ fields.DistinctKeys id)) := by
  obtain ⟨n, rfl⟩ : ∃ m, n = m + 1 := ⟨n - 1, by omega⟩
  cases fields with
  | nil => exact .inl ⟨rfl, by simp [Fields.keys], by simp [Fields.keys], trivial⟩
  | cons key value fields =>
    simp only [Fields.tokens, List.length_cons, List.length_append] at h
    rw [Fields.tokens, List.cons_append, List.append_assoc, readMembers]
    by_cases hseen : key ∈ seen
    · refine .inr ⟨by simp [hseen], fun hd => hd.1 key ?_ hseen⟩
      simp [Fields.keys]
    · rw [if_neg (by simpa using hseen)]
      rcases readValue_tokens value n (fields.tokens ++ .closeObject :: rest) (by omega) with
        ⟨hread, hvalue⟩ | ⟨hread, hvalue⟩
      · rw [hread]
        rcases readMembers_tokens fields n (key :: seen) rest (by omega) with ⟨hrest, hfields⟩ | ⟨hrest, hfields⟩
        · refine .inl ⟨hrest, ?_, ?_, hvalue, hfields.2.2⟩
          · intro k hk
            rcases List.mem_cons.1 hk with rfl | hk
            · exact hseen
            · exact fun hin => hfields.1 k hk (List.mem_cons_of_mem _ hin)
          · exact List.nodup_cons.2 ⟨fun hin => hfields.1 key hin List.mem_cons_self, hfields.2.1⟩
        · refine .inr ⟨hrest, fun hd => hfields ⟨?_, (List.nodup_cons.1 hd.2.1).2, hd.2.2.2⟩⟩
          intro k hk hin
          rcases List.mem_cons.1 hin with rfl | hin
          · exact (List.nodup_cons.1 hd.2.1).1 hk
          · exact hd.1 k (List.mem_cons_of_mem _ hk) hin
      · rw [hread]
        exact .inr ⟨rfl, fun hd => hvalue hd.2.2.1⟩

end

/-- The scanner accepts the text of a value exactly when no object of it repeats a key as it is written. -/
theorem rejectPortDuplicateJSONKeys_iff (j : Json) : rejectPortDuplicateJSONKeys j.tokens = true ↔ j.DistinctKeys id := by
  have hread := readValue_tokens j (j.tokens.length + 1) [] (by omega)
  rw [List.append_nil] at hread
  rw [rejectPortDuplicateJSONKeys, beq_iff_eq]
  rcases hread with ⟨h, hd⟩ | ⟨h, hd⟩
  · simp [h, hd]
  · simp [h, hd]

/-! ## Fields and keys -/

theorem find_mem {members : Members} {name : String} {type : Schema} {p : String → Bool}
    (h : members.find p = some (name, type)) :
    p name = true ∧ name ∈ members.names ∧ (members.FoldsDistinct → type.FoldsDistinct) := by
  match members, h with
  | .nil, h => simp [Members.find] at h
  | .cons n t rest, h =>
    by_cases hp : p n = true
    · obtain ⟨rfl, rfl⟩ : n = name ∧ t = type := by simpa [Members.find, hp] using h
      exact ⟨hp, by simp [Members.names], fun hd => hd.1⟩
    · have hrest : rest.find p = some (name, type) := by simpa [Members.find, hp] using h
      obtain ⟨hname, hmem, hdistinct⟩ := find_mem hrest
      exact ⟨hname, by simp [Members.names, hmem], fun hd => hdistinct hd.2⟩

section Resolve

variable {members : Members} {k k' name name' : String} {type type' : Schema}

theorem resolve_mem (h : members.resolve k = some (name, type)) :
    foldName name = foldName k ∧ name ∈ members.names ∧ (members.FoldsDistinct → type.FoldsDistinct) := by
  rcases Option.or_eq_some_iff.1 h with h | ⟨-, h⟩
  · obtain ⟨hname, hrest⟩ := find_mem h
    rw [beq_iff_eq] at hname
    exact ⟨by rw [hname], hrest⟩
  · obtain ⟨hname, hrest⟩ := find_mem h
    exact ⟨by simpa using hname, hrest⟩

/-- two keys stand for one field exactly when they fold together -/
theorem resolve_eq_iff (hd : (members.names.map foldName).Nodup) (h : members.resolve k = some (name, type))
    (h' : members.resolve k' = some (name', type')) : name = name' ↔ foldName k = foldName k' := by
  obtain ⟨hfold, hmem, -⟩ := resolve_mem h
  obtain ⟨hfold', hmem', -⟩ := resolve_mem h'
  constructor
  · rintro rfl
    rw [← hfold, hfold']
  · intro hk
    exact List.inj_on_of_nodup_map hd hmem hmem' (by rw [hfold, hfold', hk])

end Resolve

/-! ## Assignments -/

/-- the fields that the assignments address -/
abbrev addressed (as : List Assignment) : List (List String) := as.map (·.field)

/-- what the decoder of an object makes of it: every key has a field, every assignment lies below the field of a key -/
structure Decoded (members : Members) (field : List String) (fields : Fields) (as : List Assignment) : Prop where
  resolved : ∀ k ∈ fields.keys, ∃ name type, members.resolve k = some (name, type) ∧ field ++ [name] ∈ addressed as
  below : ∀ path ∈ addressed as, ∃ k ∈ fields.keys, ∃ name type, members.resolve k = some (name, type) ∧
    field ++ [name] <+: path

theorem below_unique {field path : List String} {name name' : String} (h : field ++ [name] <+: path)
    (h' : field ++ [name'] <+: path) : name = name' := by
  have heq := List.prefix_of_prefix_length_le h h' (by simp)
  have := heq.eq_of_length (by simp)
  simpa using this

theorem decodeFields_cons {members : Members} {field key : List String} {k : String} {value : Json} {rest : Fields}
    {as : List Assignment} (h : decodeFields members field key (.cons k value rest) = some as) :
    ∃ name type inner others, members.resolve k = some (name, type) ∧
      decode type (field ++ [name]) (key ++ [k]) value = some inner ∧ decodeFields members field key rest = some others ∧
      as = ⟨field ++ [name], key ++ [k], literal value⟩ :: (inner ++ others) := by
  rw [decodeFields] at h
  cases hresolve : members.resolve k with
  | none => simp [hresolve] at h
  | some found =>
    obtain ⟨name, type⟩ := found
    simp only [hresolve] at h
    obtain ⟨inner, hinner, hrest⟩ := Option.bind_eq_some_iff.1 h
    obtain ⟨others, hothers, rfl⟩ := Option.map_eq_some_iff.1 hrest
    exact ⟨name, type, inner, others, rfl, hinner, hothers, rfl⟩

mutual

/-- the assignments inside a value lie strictly below its field -/
theorem decode_below (j : Json) {type : Schema} {field key : List String} {as : List Assignment}
    (h : decode type field key j = some as) : ∀ path ∈ addressed as, field <+: path ∧ field ≠ path := by
  cases j with
  | atom a =>
    have : as = [] := by
      cases type <;> simp only [decode] at h <;> split_ifs at h <;> simpa using h.symm
    simp [this]
  | arr items => simp [decode] at h
  | obj fields =>
    cases type with
    | scalar accepts => simp [decode] at h
    | struct members =>
      rw [decode] at h
      intro path hpath
      obtain ⟨-, -, name, -, -, hname⟩ := (decodeFields_decoded fields h).below path hpath
      refine ⟨(List.prefix_append field [name]).trans hname, ?_⟩
      rintro rfl
      have := hname.length_le
      simp at this

theorem decodeFields_decoded (fields : Fields) {members : Members} {field key : List String} {as : List Assignment}
    (h : decodeFields members field key fields = some as) : Decoded members field fields as := by
  cases fields with
  | nil =>
    have : as = [] := by simpa [decodeFields] using h.symm
    exact ⟨by simp [Fields.keys], by simp [this]⟩
  | cons k value rest =>
    obtain ⟨name, type, inner, others, hresolve, hinner, hothers, rfl⟩ := decodeFields_cons h
    have hrest := decodeFields_decoded rest hothers
    constructor
    · intro k' hk'
      rcases List.mem_cons.1 hk' with rfl | hk'
      · exact ⟨name, type, hresolve, by simp⟩
      · obtain ⟨name', type', hresolve', hmem⟩ := hrest.resolved k' hk'
        refine ⟨name', type', hresolve', ?_⟩
        simp only [List.map_cons, List.map_append, List.mem_cons, List.mem_append]
        exact .inr (.inr hmem)
    · intro path hpath
      simp only [List.map_cons, List.map_append, List.mem_cons, List.mem_append] at hpath
      rcases hpath with rfl | hpath | hpath
      · exact ⟨k, by simp [Fields.keys], name, type, hresolve, List.prefix_rfl⟩
      · exact ⟨k, by simp [Fields.keys], name, type, hresolve, (decode_below value hinner path hpath).1⟩
      · obtain ⟨k', hk', hbelow⟩ := hrest.below path hpath
        exact ⟨k', by simp [Fields.keys, hk'], hbelow⟩

end

mutual

/-- a value addresses every field once exactly when its objects keep their folded keys apart -/
theorem decode_once_iff (j : Json) {type : Schema} {field key : List String} {as : List Assignment}
    (hd : type.FoldsDistinct) (h : decode type field key j = some as) :
    (addressed as).Nodup ↔ j.DistinctKeys foldName := by
  cases j with
  | atom a =>
    have : as = [] := by
      cases type <;> simp only [decode] at h <;> split_ifs at h <;> simpa using h.symm
    simp [this, Json.DistinctKeys]
  | arr items => simp [decode] at h
  | obj fields =>
    cases type with
    | scalar accepts => simp [decode] at h
    | struct members =>
      rw [decode] at h
      exact decodeFields_once_iff fields hd.1 hd.2 h

theorem decodeFields_once_iff (fields : Fields) {members : Members} {field key : List String} {as : List Assignment}
    (hnames : (members.names.map foldName).Nodup) (hd : members.FoldsDistinct)
    (h : decodeFields members field key fields = some as) :
    (addressed as).Nodup ↔ (fields.keys.map foldName).Nodup ∧ fields.DistinctKeys foldName := by
  cases fields with
  | nil =>
    have : as = [] := by simpa [decodeFields] using h.symm
    simp [this, Fields.keys, Fields.DistinctKeys]
  | cons k value rest =>
    obtain ⟨name, type, inner, others, hresolve, hinner, hothers, rfl⟩ := decodeFields_cons h
    have hvalue := decode_once_iff value ((resolve_mem hresolve).2.2 hd) hinner
    have hrest := decodeFields_once_iff rest hnames hd hothers
    have hdecoded := decodeFields_decoded rest hothers
    have hinside := decode_below value hinner
    -- another key of the same field addresses the field of this one again
    have hapart : foldName k ∉ rest.keys.map foldName ↔ ∀ path ∈ addressed others, ¬ field ++ [name] <+: path := by
      constructor
      · intro hk path hpath hbelow
        obtain ⟨k', hk', name', type', hresolve', hbelow'⟩ := hdecoded.below path hpath
        have hname := below_unique hbelow hbelow'
        apply hk
        rw [(resolve_eq_iff hnames hresolve hresolve').1 hname]
        exact List.mem_map_of_mem hk'
      · intro hnone hk
        obtain ⟨k', hk', hfold⟩ := List.mem_map.1 hk
        obtain ⟨name', type', hresolve', hmem⟩ := hdecoded.resolved k' hk'
        have hname := (resolve_eq_iff hnames hresolve hresolve').2 hfold.symm
        rw [← hname] at hmem
        exact hnone _ hmem List.prefix_rfl
    simp only [List.map_cons, List.map_append, List.nodup_cons, List.nodup_append, Fields.keys, Fields.DistinctKeys,
      hvalue, hrest, hapart]
    constructor
    · rintro ⟨hout, hv, ⟨hk, hr⟩, hdisjoint⟩
      refine ⟨⟨fun path hpath hbelow => hout (List.mem_append_right _ ?_), hk⟩, hv, hr⟩
      obtain ⟨k', hk', name', type', hresolve', hbelow'⟩ := hdecoded.below path hpath
      obtain ⟨name'', type'', hresolve'', hmem⟩ := hdecoded.resolved k' hk'
      obtain ⟨rfl, -⟩ := Prod.mk.inj (Option.some.inj (hresolve'.symm.trans hresolve''))
      rwa [below_unique hbelow hbelow']
    · rintro ⟨⟨hnone, hk⟩, hv, hr⟩
      refine ⟨?_, hv, ⟨hk, hr⟩, ?_⟩
      · intro hmem
        rcases List.mem_append.1 hmem with hmem | hmem
        · exact (hinside _ hmem).2 rfl
        · exact hnone _ hmem List.prefix_rfl
      · intro a ha b hb hab
        subst hab
        exact hnone a hb (hinside a ha).1

end

/-! ## The decoder -/

theorem membersOf_names (fields : List (String × Schema)) : (membersOf fields).names = fields.map Prod.fst := by
  induction fields with
  | nil => rfl
  | cons field fields ih => rw [membersOf, Members.names, ih, List.map_cons]

theorem membersOf_foldsDistinct {fields : List (String × Schema)} (h : ∀ f ∈ fields, f.2.FoldsDistinct) :
    (membersOf fields).FoldsDistinct := by
  induction fields with
  | nil => trivial
  | cons field fields ih =>
    exact ⟨h field List.mem_cons_self, ih fun f hf => h f (List.mem_cons_of_mem _ hf)⟩

theorem dockerBindingSchema_foldsDistinct : dockerBindingSchema.FoldsDistinct := by
  refine ⟨?_, membersOf_foldsDistinct ?_⟩
  · rw [membersOf_names]
    decide +kernel
  · simp [textSchema, intSchema, Schema.FoldsDistinct]

theorem planMembers_foldsDistinct {snapshot baseline : Schema} (hs : snapshot.FoldsDistinct)
    (hb : baseline.FoldsDistinct) : (Schema.struct (planMembers snapshot baseline)).FoldsDistinct := by
  refine ⟨?_, membersOf_foldsDistinct ?_⟩
  · rw [planMembers, membersOf_names]
    simp only [List.map_cons, List.map_nil]
    decide +kernel
  · have hdocker := dockerBindingSchema_foldsDistinct
    simp [textSchema, intSchema, uintSchema, Schema.FoldsDistinct, hs, hb, hdocker]

/-- **Strict decoding up to case.** In every text the plan decoder accepts, no object repeats a key as it is written; each
field is addressed by one key exactly when no object has two keys that fold together. -/
theorem plan_fields_once_iff (snapshot baseline : Schema) (ts : List Token) (decoded : List Assignment)
    (hs : snapshot.FoldsDistinct) (hb : baseline.FoldsDistinct) (h : unmarshalJSON snapshot baseline ts = some decoded) :
    ∃ j : Json, ts = j.tokens ∧ j.DistinctKeys id ∧ ((addressed decoded).Nodup ↔ j.DistinctKeys foldName) := by
  unfold unmarshalJSON at h
  split_ifs at h with hscan
  obtain ⟨j, hparse, hdecode⟩ := Option.bind_eq_some_iff.1 h
  obtain ⟨as, has, hgate⟩ := Option.bind_eq_some_iff.1 hdecode
  split_ifs at hgate
  cases hgate
  obtain rfl := parse_eq_some_iff.1 hparse
  refine ⟨j, rfl, ?_, decode_once_iff j (planMembers_foldsDistinct hs hb) has⟩
  exact (rejectPortDuplicateJSONKeys_iff j).1 (by simpa using hscan)

/-! ## Samples -/

/-- contract types with one field each -/
def sampleSnapshot : Schema := .struct (.cons "snapshot_id" textSchema .nil)
def sampleBaseline : Schema := .struct (.cons "expected_image_id" textSchema .nil)

/-- the tokens of an object with two fields, the second an object with one -/
def nestedText (key inner : String) : List Token :=
  [.openObject, .atom (.str "job_id"), .atom (.str "job-1"), .atom (.str key), .openObject, .atom (.str inner),
    .atom (.str "s-1"), .closeObject, .closeObject]

/-- `{"job_id": "job-1", "JOB_ID": "job-2"}` -/
def foldedText : List Token :=
  [.openObject, .atom (.str "job_id"), .atom (.str "job-1"), .atom (.str "JOB_ID"), .atom (.str "job-2"), .closeObject]

/-- what the decoder makes of the texts -/
theorem sample_texts :
    unmarshalJSON sampleSnapshot sampleBaseline (nestedText "before" "snapshot_id") =
      some [⟨["job_id"], ["job_id"], some (.str "job-1")⟩, ⟨["before"], ["before"], none⟩,
        ⟨["before", "snapshot_id"], ["before", "snapshot_id"], some (.str "s-1")⟩] ∧
    unmarshalJSON sampleSnapshot sampleBaseline foldedText =
      some [⟨["job_id"], ["job_id"], some (.str "job-1")⟩, ⟨["job_id"], ["JOB_ID"], some (.str "job-2")⟩] := by
  decide +kernel

theorem nested_text_once :
    ∃ j : Json, nestedText "before" "snapshot_id" = j.tokens ∧ j.DistinctKeys id ∧
      (addressed [⟨["job_id"], ["job_id"], some (.str "job-1")⟩, ⟨["before"], ["before"], none⟩,
        ⟨["before", "snapshot_id"], ["before", "snapshot_id"], some (.str "s-1")⟩]).Nodup ∧ j.DistinctKeys foldName := by
  obtain ⟨j, hj, hscan, honce⟩ := plan_fields_once_iff sampleSnapshot sampleBaseline (nestedText "before" "snapshot_id") _
    (by simp [sampleSnapshot, textSchema, Schema.FoldsDistinct, Members.FoldsDistinct, Members.names])
    (by simp [sampleBaseline, textSchema, Schema.FoldsDistinct, Members.FoldsDistinct, Members.names]) sample_texts.1
  exact ⟨j, hj, hscan, by decide, honce.1 (by decide)⟩

/-- The decoder accepts a text with the key `job_id` in two cases, and both set the job of the plan. -/
theorem folded_keys_assign_twice :
    ∃ decoded, unmarshalJSON sampleSnapshot sampleBaseline foldedText = some decoded ∧
      (decoded.map fun a => (a.field, a.key)) = [(["job_id"], ["job_id"]), (["job_id"], ["JOB_ID"])] ∧
      ¬ (addressed decoded).Nodup :=
  ⟨_, sample_texts.2, rfl, by decide⟩

end AutostreamUpdater.Contract
