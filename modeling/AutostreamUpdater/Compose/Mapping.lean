/-
The port mappings of a Compose project (`docker_port_mapping.go`, `docker_node_listener.go`).

`validateDockerComposePortMappings` walks over every published port of every service, refuses a port that collides with one
seen before, and extracts the mapping of the managed service. Go walks over the services in an arbitrary order, so the model
takes such a map as a list with one entry per key (`MapList`), and its results are stated for any two orders of the same
entries. A map that the source only looks up is a function.

`Binding.Conflict` is what a collision is in its own terms, over addresses. `run_ok_iff` says what a completed walk has
established and what it has collected; `compose_port_check` follows from it.
`net/netip` and the parser of the listener file belong to other packages and are parameters.
-/
import AutostreamUpdater.Contract.Text
import AutostreamUpdater.Base.Decimal
import AutostreamUpdater.Base.Assoc

namespace AutostreamUpdater.Compose

open Contract Base

/-! ## The decoded project -/

/-- a JSON value where the source declares `any` -/
inductive ComposeValue where
  | number (text : String)
  | string (text : String)
  | other
  deriving DecidableEq, Repr

/-- `dockerComposePort` -/
structure DockerComposePort where
  hostIP : String
  target : ComposeValue
  published : ComposeValue
  protocol : String
  mode : String
  deriving DecidableEq, Repr

/-- a mount of a service's `configs` -/
structure ConfigMount where
  source : String
  target : String
  deriving DecidableEq, Repr

/-- a service as the listener code decodes it -/
structure ListenerService where
  environment : String → Option ComposeValue
  configs : List ConfigMount

/-- an entry of the project's `configs`; `external` says that the field is present and not null -/
structure ConfigDefinition where
  content : String
  file : String
  environment : String
  external : Bool
  deriving DecidableEq, Repr

/-- the project as the listener code decodes it -/
structure ListenerModel where
  services : MapList String ListenerService
  configs : String → Option ConfigDefinition

/-- what the two decoders make of the text of a project; `none` is a text that a decoder refuses -/
structure ComposeText where
  ports : Option (MapList String (List DockerComposePort))
  listener : Option ListenerModel

/-- `DockerTarget`: the fields read here -/
structure DockerTarget where
  service : String
  imageRepo : String
  deriving DecidableEq, Repr

/-- `dockerPortMapping` -/
structure DockerPortMapping where
  hostIP : String
  publishedPort : ℤ
  containerPort : ℤ
  protocol : String
  deriving DecidableEq, Repr

/-- `contracts.NodeListenerConfig`: the fields read here -/
structure NodeListenerConfig where
  serviceType : String
  bindAddress : String
  deriving DecidableEq, Repr

/-- `net/netip` and `contracts.ParseNodeListenerConfig` -/
structure NetEnv where
  Addr : Type
  parseAddr : String → Option Addr
  addrString : Addr → String
  is4In6 : Addr → Bool
  isUnspecified : Addr → Bool
  parseAddrPort : String → Option (Addr × ℕ)
  parseNodeListenerConfig : String → Option NodeListenerConfig

variable (E : NetEnv)

/-! ## Reading one port -/

def ComposeValue.text : ComposeValue → Option String
  | .number text => some text
  | .string text => some text
  | .other => none

def dockerComposePortNumber (value : ComposeValue) : Except String ℤ :=
  match value.text with
  | none => .error "port is not an integer"
  | some text =>
    if text != trimSpace text || text.toList.head? == some '+' then .error "port is not canonical"
    else match Decimal.readInt64 text.toList with
      | none => .error "port is outside the valid range"
      | some port =>
        if port < 1 || 65535 < port || toString port != text then .error "port is outside the valid range"
        else .ok port

def canonicalDockerHostIP (value : String) : Except String String :=
  if value == "" then .ok ""
  else if value != trimSpace value then .error "host address is not canonical"
  else match E.parseAddr value with
    | none => .error "host address is not an IP literal"
    | some address =>
      if E.is4In6 address then .error "host address is not an IP literal" else .ok (E.addrString address)

def dockerHostBindingsConflict (left right : String) : Bool :=
  if left == "" || right == "" || left == right then true
  else match E.parseAddr left, E.parseAddr right with
    | some leftAddress, some rightAddress => E.isUnspecified leftAddress || E.isUnspecified rightAddress
    | _, _ => true

/-- the protocol of a port, `tcp` when the field is empty -/
def portProtocol (protocol : String) : String :=
  let protocol := toLower (trimSpace protocol)
  if protocol == "" then "tcp" else protocol

/-- the body of the inner loop up to the comparison with the ports seen before -/
def readComposePort (serviceName : String) (rawPort : DockerComposePort) : Except String DockerPortMapping :=
  match dockerComposePortNumber rawPort.target with
  | .error _ => .error ("Docker service " ++ serviceName.quote ++ " has an invalid container port")
  | .ok containerPort =>
    match dockerComposePortNumber rawPort.published with
    | .error _ => .error ("Docker service " ++ serviceName.quote ++ " has an invalid published port")
    | .ok publishedPort =>
      let protocol := portProtocol rawPort.protocol
      if protocol != "tcp" && protocol != "udp" then
        .error ("Docker service " ++ serviceName.quote ++ " has an unsupported published protocol")
      else match canonicalDockerHostIP E rawPort.hostIP with
        | .error _ => .error ("Docker service " ++ serviceName.quote ++ " has an invalid published host address")
        | .ok hostIP => .ok ⟨hostIP, publishedPort, containerPort, protocol⟩

/-- two published ports that collide -/
def samePublishedPort (prior entry : DockerPortMapping) : Bool :=
  prior.publishedPort == entry.publishedPort && prior.protocol == entry.protocol &&
    dockerHostBindingsConflict E prior.hostIP entry.hostIP

/-- what the managed service may publish -/
def managedPortAllowed (rawPort : DockerComposePort) (entry : DockerPortMapping) : Bool :=
  !(entry.containerPort < 1024 || entry.publishedPort < 1024 || 65535 < entry.containerPort ||
    65535 < entry.publishedPort || entry.protocol != "tcp" || (rawPort.mode != "" && rawPort.mode != "ingress"))

/-! ## The walk -/

/-- the two lists that the loops build up -/
structure Walk where
  observed : List DockerPortMapping
  managedMappings : List DockerPortMapping
  deriving DecidableEq, Repr

/-- one port of one service -/
def Walk.step (managed : String) (w : Walk) (item : String × DockerComposePort) : Except String Walk :=
  match readComposePort E item.1 item.2 with
  | .error reason => .error reason
  | .ok entry =>
    if w.observed.any fun prior => samePublishedPort E prior entry then
      .error ("Docker published port " ++ toString entry.publishedPort ++ "/" ++ entry.protocol ++
        " is assigned more than once in the Compose project")
    else
      let w := { w with observed := w.observed ++ [entry] }
      if item.1 != managed then .ok w
      else if !managedPortAllowed item.2 entry then .error "managed Docker ports must be unprivileged TCP ingress ports"
      else .ok { w with managedMappings := w.managedMappings ++ [entry] }

/-- the ports of all services, in the order in which the loops meet them -/
def publishedPorts (services : MapList String (List DockerComposePort)) : List (String × DockerComposePort) :=
  services.entries.flatMap fun s => s.2.map fun p => (s.1, p)

def Walk.run (managed : String) (w : Walk) (items : List (String × DockerComposePort)) : Except String Walk :=
  items.foldlM (Walk.step E managed) w

/-! ## The managed listener -/

def dockerListenPort (value : String) : Except String ℤ :=
  if value != trimSpace value then .error "container bind address is not canonical"
  else match E.parseAddrPort value with
    | none => .error "container bind address is invalid"
    | some (address, port) =>
      if !E.isUnspecified address || port < 1024 then .error "container bind address is invalid" else .ok port

/-- the mounts of the listener file in a service -/
def listenerMounts (configs : List ConfigMount) : List ConfigMount :=
  configs.filter fun item => item.target == "/run/autostream-credentials/node-listener.json"

/-- the loop over the managed service's mounts: one mount with a source, or none -/
def listenerSource (configs : List ConfigMount) : Except String String :=
  match listenerMounts configs with
  | [] => .ok ""
  | [item] => if item.source == "" then .error "Docker Node listener mount is ambiguous" else .ok item.source
  | _ => .error "Docker Node listener mount is ambiguous"

def removedListenerInputs : List String :=
  ["AUTOSTREAM_BIND_ADDR", "OBSERVABILITY_BIND_ADDR", "AUTOSTREAM_CONFIG_REVISION"]

/-- the listener of the managed service; `model` is the decoded project -/
def dockerNodeListenerFromCompose (model : Option ListenerModel) (service : String) : Except String NodeListenerConfig :=
  match model with
  | none => .error "Docker listener model is invalid JSON"
  | some model =>
    match model.services.lookup service with
    | none => .error "Docker Node listener credential directory is unavailable"
    | some managed =>
      if managed.environment "CREDENTIALS_DIRECTORY" != some (.string "/run/autostream-credentials") then
        .error "Docker Node listener credential directory is unavailable"
      else if removedListenerInputs.any fun name => (managed.environment name).isSome then
        .error "Docker Node uses a removed listener environment input"
      else match listenerSource managed.configs with
        | .error reason => .error reason
        | .ok source =>
          match (if source == "" then none else model.configs source) with
          | none => .error "Docker Node requires an inline v2 listener configuration"
          | some definition =>
            if definition.content == "" || definition.file != "" || definition.environment != "" ||
                definition.external then
              .error "Docker Node requires an inline v2 listener configuration"
            else if model.services.entries.any fun other => other.1 != service &&
                other.2.configs.any fun item => item.source == source then
              .error "Docker Node listener configuration must not be shared"
            else match E.parseNodeListenerConfig definition.content with
              | none => .error "Docker Node listener configuration has the wrong service identity or shape"
              | some listener =>
                if listener.serviceType != String.ofList (service.toList.map fun c => if c == '-' then '_' else c) then
                  .error "Docker Node listener configuration has the wrong service identity or shape"
                else match dockerListenPort E listener.bindAddress with
                  | .error reason => .error reason
                  | .ok _ => .ok listener

/-! ## The check -/

def isCanonicalNodeDockerPortTarget (target : DockerTarget) : Bool :=
  let service := dockerManifestService target.service
  ["worker", "encoder-recorder", "discord-bot", "observability"].contains service && target.service == service &&
    target.imageRepo == "ghcr.io/kome-lab/autostream-docker/" ++ service

/-- the end of the check: nothing published, or one mapping to the listener's port -/
def bindManagedMapping (raw : ComposeText) (target : DockerTarget) (managedMappings : List DockerPortMapping) :
    Except String (List DockerPortMapping) :=
  match managedMappings with
  | [] => .ok []
  | [mapping] =>
    match dockerNodeListenerFromCompose E raw.listener target.service with
    | .error reason => .error reason
    | .ok listener =>
      match dockerListenPort E listener.bindAddress with
      | .error _ => .error "managed Docker container bind port differs from its published target port"
      | .ok bindPort =>
        if bindPort != mapping.containerPort then
          .error "managed Docker container bind port differs from its published target port"
        else .ok [mapping]
  | _ => .error "managed Docker service must have exactly one published API port"

def validateDockerComposePortMappings (raw : ComposeText) (target : DockerTarget) :
    Except String (List DockerPortMapping) :=
  if !identifierPattern target.service then .error "Docker port mapping target is invalid"
  else if !isCanonicalNodeDockerPortTarget target then .ok []
  else match raw.ports with
    | none => .error "Docker port mapping model is invalid JSON"
    | some services =>
      if (services.lookup target.service).isNone then .error "Docker port mapping model has no managed service"
      else match Walk.run E target.service ⟨[], []⟩ (publishedPorts services) with
        | .error reason => .error reason
        | .ok walk => bindManagedMapping E raw target walk.managedMappings

/-! ## Collisions over addresses -/

/-- a published port: the host address it is bound to (`none` is every address), its number and its protocol -/
structure Binding (Addr : Type) where
  host : Option Addr
  port : ℤ
  protocol : String

/-- Two bindings conflict when protocol and port are the same and the host addresses are equal, or one of them is missing
or unspecified. -/
def Binding.Conflict {Addr : Type} (unspecified : Addr → Bool) (b b' : Binding Addr) : Prop :=
  b.protocol = b'.protocol ∧ b.port = b'.port ∧
    (b.host = none ∨ b'.host = none ∨ b.host = b'.host ∨ (∃ a, b.host = some a ∧ unspecified a = true) ∨
      ∃ a, b'.host = some a ∧ unspecified a = true)

/-- the binding that a port of the project asks for -/
def DockerComposePort.binding (p : DockerComposePort) : Option (Binding E.Addr) :=
  match dockerComposePortNumber p.published, p.hostIP == "", E.parseAddr p.hostIP with
  | .ok port, true, _ => some ⟨none, port, portProtocol p.protocol⟩
  | .ok port, false, some address => some ⟨some address, port, portProtocol p.protocol⟩
  | _, _, _ => none

variable {E}

/-- what was read stands for the binding -/
structure Represents (entry : DockerPortMapping) (b : Binding E.Addr) : Prop where
  port : entry.publishedPort = b.port
  protocol : entry.protocol = b.protocol
  missing : b.host = none → entry.hostIP = ""
  address : ∀ a, b.host = some a → entry.hostIP = E.addrString a ∧ ∃ text, E.parseAddr text = some a

theorem canonicalDockerHostIP_ok {value hostIP : String} (h : canonicalDockerHostIP E value = .ok hostIP) :
    value = "" ∧ hostIP = "" ∨ value ≠ "" ∧ ∃ a, E.parseAddr value = some a ∧ hostIP = E.addrString a := by
  unfold canonicalDockerHostIP at h
  by_cases hempty : value = ""
  · simp only [hempty, beq_self_eq_true, if_true, Except.ok.injEq] at h
    exact .inl ⟨hempty, h.symm⟩
  · rw [if_neg (by simpa using hempty)] at h
    cases hparse : E.parseAddr value with
    | none =>
      simp only [hparse] at h
      split at h <;> cases h
    | some address =>
      simp only [hparse] at h
      split_ifs at h
      exact .inr ⟨hempty, address, rfl, (Except.ok.inj h).symm⟩

theorem readComposePort_ok {service : String} {p : DockerComposePort} {entry : DockerPortMapping}
    (h : readComposePort E service p = .ok entry) :
    dockerComposePortNumber p.target = .ok entry.containerPort ∧ ∃ b, p.binding E = some b ∧ Represents entry b := by
  unfold readComposePort at h
  cases htarget : dockerComposePortNumber p.target with
  | error e => simp [htarget] at h
  | ok containerPort =>
    cases hpublished : dockerComposePortNumber p.published with
    | error e => simp [htarget, hpublished] at h
    | ok publishedPort =>
      simp only [htarget, hpublished] at h
      split_ifs at h
      cases hhost : canonicalDockerHostIP E p.hostIP with
      | error e => simp [hhost] at h
      | ok hostIP =>
        rw [hhost] at h
        obtain rfl := Except.ok.inj h
        refine ⟨rfl, ?_⟩
        unfold DockerComposePort.binding
        rcases canonicalDockerHostIP_ok hhost with ⟨hempty, rfl⟩ | ⟨hempty, a, hparse, rfl⟩
        · refine ⟨⟨none, publishedPort, portProtocol p.protocol⟩, by simp [hpublished, hempty], rfl, rfl, ?_, ?_⟩
          · exact fun _ => rfl
          · simp
        · have hne : (p.hostIP == "") = false := by simpa using hempty
          refine ⟨⟨some a, publishedPort, portProtocol p.protocol⟩, by simp [hpublished, hne, hparse], rfl, rfl, ?_, ?_⟩
          · simp
          · intro a' ha
            obtain rfl := Option.some.inj ha
            exact ⟨rfl, _, hparse⟩

/-- The code sees every conflict, if a printed address parses to itself. -/
theorem samePublishedPort_of_conflict (hround : ∀ text a, E.parseAddr text = some a → E.parseAddr (E.addrString a) = some a)
    {entry entry' : DockerPortMapping} {b b' : Binding E.Addr} (h : Represents entry b) (h' : Represents entry' b')
    (hconflict : b.Conflict E.isUnspecified b') : samePublishedPort E entry entry' = true := by
  obtain ⟨hprotocol, hport, hhost⟩ := hconflict
  have hsame : dockerHostBindingsConflict E entry.hostIP entry'.hostIP = true := by
    unfold dockerHostBindingsConflict
    cases hb : b.host with
    | none => simp [h.missing hb]
    | some a =>
      cases hb' : b'.host with
      | none => simp [h'.missing hb']
      | some a' =>
        obtain ⟨htext, text, hparse⟩ := h.address a hb
        obtain ⟨htext', text', hparse'⟩ := h'.address a' hb'
        have haddr := hround text a hparse
        have haddr' := hround text' a' hparse'
        rw [hb, hb'] at hhost
        rw [htext, htext', haddr, haddr']
        split_ifs
        · rfl
        · rename_i hdiffer
          rcases hhost with h | h | h | ⟨x, hx, hun⟩ | ⟨x, hx, hun⟩
          · simp at h
          · simp at h
          · obtain rfl := Option.some.inj h
            simp at hdiffer
          · obtain rfl := Option.some.inj hx
            simp [hun]
          · obtain rfl := Option.some.inj hx
            simp [hun]
  simp [samePublishedPort, h.port, h'.port, h.protocol, h'.protocol, hprotocol, hport, hsame]

/-! ## What a walk establishes -/

theorem dockerHostBindingsConflict_comm (left right : String) :
    dockerHostBindingsConflict E left right = dockerHostBindingsConflict E right left := by
  unfold dockerHostBindingsConflict
  have hguard : (left == "" || right == "" || left == right) = (right == "" || left == "" || right == left) := by
    rw [Bool.or_comm (left == "") (right == ""), BEq.comm (a := left) (b := right)]
  rw [hguard]
  split_ifs
  · rfl
  · cases E.parseAddr left <;> cases E.parseAddr right <;> simp [Bool.or_comm]

theorem samePublishedPort_comm (e e' : DockerPortMapping) : samePublishedPort E e e' = samePublishedPort E e' e := by
  unfold samePublishedPort
  rw [dockerHostBindingsConflict_comm, BEq.comm (a := e.publishedPort), BEq.comm (a := e.protocol)]

variable (E)

/-- two entries that may stand in one project -/
def Apart (e e' : DockerPortMapping) : Prop := samePublishedPort E e e' = false

/-- a port that is read and, in the managed service, allowed -/
def Admitted (managed : String) (item : String × DockerComposePort) : Prop :=
  ∃ entry, readComposePort E item.1 item.2 = .ok entry ∧ (item.1 = managed → managedPortAllowed item.2 entry = true)

/-- the entries of a list of ports -/
def entries (items : List (String × DockerComposePort)) : List DockerPortMapping :=
  items.filterMap fun item => (readComposePort E item.1 item.2).toOption

/-- the entries of the managed service -/
def managedEntries (managed : String) (items : List (String × DockerComposePort)) : List DockerPortMapping :=
  entries E (items.filter fun item => item.1 == managed)

variable {E}

theorem step_ok_iff {managed : String} {w w' : Walk} {item : String × DockerComposePort} :
    w.step E managed item = .ok w' ↔ ∃ entry, readComposePort E item.1 item.2 = .ok entry ∧
      (∀ prior ∈ w.observed, Apart E prior entry) ∧ (item.1 = managed → managedPortAllowed item.2 entry = true) ∧
      w' = ⟨w.observed ++ [entry], w.managedMappings ++ if item.1 = managed then [entry] else []⟩ := by
  unfold Walk.step
  cases hread : readComposePort E item.1 item.2 with
  | error e => simp
  | ok entry =>
    simp only [Except.ok.injEq, exists_eq_left']
    by_cases hclash : (w.observed.any fun prior => samePublishedPort E prior entry) = true
    · rw [if_pos hclash]
      obtain ⟨prior, hprior, hsame⟩ := List.any_eq_true.1 hclash
      constructor
      · intro h
        cases h
      · rintro ⟨hapart, -⟩
        exact absurd (hapart prior hprior) (by simp [Apart, hsame])
    · rw [if_neg hclash]
      have hapart : ∀ prior ∈ w.observed, Apart E prior entry := by
        intro prior hprior
        by_contra hsame
        exact hclash (List.any_eq_true.2 ⟨prior, hprior, by simpa [Apart] using hsame⟩)
      by_cases hmanaged : item.1 = managed
      · rw [if_neg (by simpa using hmanaged)]
        by_cases hallowed : managedPortAllowed item.2 entry = true
        · rw [if_neg (by simp [hallowed]), if_pos hmanaged]
          exact ⟨fun h => ⟨hapart, fun _ => hallowed, (Except.ok.inj h).symm⟩, fun h => congrArg Except.ok h.2.2.symm⟩
        · rw [if_pos (by simpa using hallowed)]
          constructor
          · intro h
            cases h
          · intro h
            exact absurd (h.2.1 hmanaged) hallowed
      · rw [if_pos (by simpa using hmanaged), if_neg hmanaged, List.append_nil]
        exact ⟨fun h => ⟨hapart, fun heq => absurd heq hmanaged, (Except.ok.inj h).symm⟩,
          fun h => congrArg Except.ok h.2.2.symm⟩

theorem entries_cons {item : String × DockerComposePort} {items : List (String × DockerComposePort)}
    {entry : DockerPortMapping} (h : readComposePort E item.1 item.2 = .ok entry) :
    entries E (item :: items) = entry :: entries E items := by
  simp [entries, h, Except.toOption]

theorem managedEntries_cons {managed : String} {item : String × DockerComposePort}
    {items : List (String × DockerComposePort)} {entry : DockerPortMapping}
    (h : readComposePort E item.1 item.2 = .ok entry) :
    managedEntries E managed (item :: items) =
      (if item.1 = managed then [entry] else []) ++ managedEntries E managed items := by
  unfold managedEntries
  by_cases hmanaged : item.1 = managed
  · rw [List.filter_cons_of_pos (by simpa using hmanaged), entries_cons h, if_pos hmanaged]
    rfl
  · rw [List.filter_cons_of_neg (by simpa using hmanaged), if_neg hmanaged]
    rfl

/-- **What a completed walk has established and collected.** -/
theorem run_ok_iff {managed : String} {w w' : Walk} {items : List (String × DockerComposePort)}
    (hw : w.observed.Pairwise (Apart E)) :
    Walk.run E managed w items = .ok w' ↔ (∀ item ∈ items, Admitted E managed item) ∧
      (w.observed ++ entries E items).Pairwise (Apart E) ∧
      w' = ⟨w.observed ++ entries E items, w.managedMappings ++ managedEntries E managed items⟩ := by
  induction items generalizing w with
  | nil =>
    simp only [Walk.run, List.foldlM_nil, entries, managedEntries, List.filterMap_nil, List.filter_nil, List.append_nil]
    constructor
    · intro h
      exact ⟨by simp, hw, (Except.ok.inj h).symm⟩
    · rintro ⟨-, -, rfl⟩
      rfl
  | cons item items ih =>
    have hcons : Walk.run E managed w (item :: items) = .ok w' ↔
        ∃ w1, w.step E managed item = .ok w1 ∧ Walk.run E managed w1 items = .ok w' := by
      rw [Walk.run, List.foldlM_cons]
      cases w.step E managed item with
      | error e => simp [bind, Except.bind]
      | ok w1 => simp [bind, Except.bind, Walk.run]
    rw [hcons]
    constructor
    · rintro ⟨w1, hstep, hrun⟩
      obtain ⟨entry, hread, hapart, hallowed, rfl⟩ := step_ok_iff.1 hstep
      have hw1 : (w.observed ++ [entry]).Pairwise (Apart E) := by
        rw [List.pairwise_append]
        refine ⟨hw, List.pairwise_singleton _ _, ?_⟩
        simpa using hapart
      obtain ⟨hadmitted, hpair, rfl⟩ := (ih hw1).1 hrun
      refine ⟨?_, ?_, ?_⟩
      · intro x hx
        rcases List.mem_cons.1 hx with rfl | hx
        · exact ⟨entry, hread, hallowed⟩
        · exact hadmitted x hx
      · simpa [entries_cons hread] using hpair
      · simp [entries_cons hread, managedEntries_cons hread]
    · rintro ⟨hadmitted, hpair, rfl⟩
      obtain ⟨entry, hread, hallowed⟩ := hadmitted item List.mem_cons_self
      rw [entries_cons hread] at hpair
      have hapart : ∀ prior ∈ w.observed, Apart E prior entry := by
        intro prior hprior
        exact (List.pairwise_append.1 hpair).2.2 prior hprior entry List.mem_cons_self
      refine ⟨_, step_ok_iff.2 ⟨entry, hread, hapart, hallowed, rfl⟩, ?_⟩
      have hw1 : (w.observed ++ [entry]).Pairwise (Apart E) := by
        rw [List.pairwise_append]
        refine ⟨hw, List.pairwise_singleton _ _, ?_⟩
        simpa using hapart
      rw [ih hw1]
      refine ⟨fun x hx => hadmitted x (List.mem_cons_of_mem _ hx), by simpa using hpair, ?_⟩
      simp [entries_cons hread, managedEntries_cons hread]

/-! ## The order of the services -/

theorem publishedPorts_filter (services : MapList String (List DockerComposePort)) (k : String) :
    ((publishedPorts services).filter fun item => item.1 == k) =
      (services.at_ k).flatMap fun s => s.2.map fun p => (s.1, p) := by
  unfold publishedPorts MapList.at_
  induction services.entries with
  | nil => rfl
  | cons s rest ih =>
    rw [List.flatMap_cons, List.filter_append, ih, List.filter_cons]
    by_cases hs : s.1 = k
    · have hkeep : (s.2.map fun p => (s.1, p)).filter (fun item => item.1 == k) = s.2.map fun p => (s.1, p) := by
        rw [List.filter_eq_self]
        intro item hitem
        obtain ⟨p, -, rfl⟩ := List.mem_map.1 hitem
        simpa using hs
      rw [hkeep, if_pos (by simpa using hs), List.flatMap_cons]
    · have hdrop : (s.2.map fun p => (s.1, p)).filter (fun item => item.1 == k) = [] := by
        rw [List.filter_eq_nil_iff]
        intro item hitem
        obtain ⟨p, -, rfl⟩ := List.mem_map.1 hitem
        simpa using hs
      rw [hdrop, if_neg (by simpa using hs), List.nil_append]

/-- a completed walk collects the same mappings in every order of the services -/
theorem run_order {managed : String} {services services' : MapList String (List DockerComposePort)}
    (h : services.Same services') {w : Walk} (hrun : Walk.run E managed ⟨[], []⟩ (publishedPorts services) = .ok w) :
    ∃ w', Walk.run E managed ⟨[], []⟩ (publishedPorts services') = .ok w' ∧ w'.managedMappings = w.managedMappings := by
  obtain ⟨hadmitted, hpair, rfl⟩ := (run_ok_iff List.Pairwise.nil).1 hrun
  have hperm : (publishedPorts services).Perm (publishedPorts services') := List.Perm.flatMap_right _ h
  refine ⟨_, (run_ok_iff List.Pairwise.nil).2 ⟨?_, ?_, rfl⟩, ?_⟩
  · intro item hitem
    exact hadmitted item (hperm.mem_iff.2 hitem)
  · have hentries : (entries E (publishedPorts services)).Perm (entries E (publishedPorts services')) := hperm.filterMap _
    have hsymm : ∀ {e e' : DockerPortMapping}, Apart E e e' → Apart E e' e := by
      intro e e' happart
      rw [Apart, samePublishedPort_comm]
      exact happart
    simpa using (hentries.pairwise_iff hsymm).1 (by simpa using hpair)
  · simp only [managedEntries, publishedPorts_filter, h.at_eq]

/-- the same project, with its services in another order -/
structure SameProject (raw raw' : ComposeText) : Prop where
  ports : Option.Rel MapList.Same raw.ports raw'.ports
  listener : Option.Rel (fun m m' => m.services.Same m'.services ∧ m.configs = m'.configs) raw.listener raw'.listener

theorem dockerNodeListenerFromCompose_order {model model' : Option ListenerModel} (service : String)
    (h : Option.Rel (fun m m' => m.services.Same m'.services ∧ m.configs = m'.configs) model model') :
    dockerNodeListenerFromCompose E model service = dockerNodeListenerFromCompose E model' service := by
  cases h with
  | none => rfl
  | some h => simp only [dockerNodeListenerFromCompose, h.1.lookup_eq, h.1.any_eq, h.2]

theorem SameProject.symm {raw raw' : ComposeText} (h : SameProject raw raw') : SameProject raw' raw := by
  obtain ⟨p, l⟩ := raw
  obtain ⟨p', l'⟩ := raw'
  obtain ⟨hports, hlistener⟩ := h
  constructor
  · cases hports with
    | none => exact .none
    | some h => exact .some h.symm
  · cases hlistener with
    | none => exact .none
    | some h => exact .some ⟨h.1.symm, h.2.symm⟩

theorem bindManagedMapping_order {raw raw' : ComposeText} (h : SameProject raw raw') (target : DockerTarget)
    (managedMappings : List DockerPortMapping) :
    bindManagedMapping E raw target managedMappings = bindManagedMapping E raw' target managedMappings := by
  unfold bindManagedMapping
  rw [dockerNodeListenerFromCompose_order target.service h.listener]

/-- what a project that passes looks like -/
theorem validate_ok_iff {raw : ComposeText} {target : DockerTarget} {ms : List DockerPortMapping}
    (hcanonical : isCanonicalNodeDockerPortTarget target = true) :
    validateDockerComposePortMappings E raw target = .ok ms ↔ identifierPattern target.service = true ∧
      ∃ services ports w, raw.ports = some services ∧ services.lookup target.service = some ports ∧
        Walk.run E target.service ⟨[], []⟩ (publishedPorts services) = .ok w ∧
        bindManagedMapping E raw target w.managedMappings = .ok ms := by
  unfold validateDockerComposePortMappings
  rw [hcanonical]
  cases hident : identifierPattern target.service with
  | false => simp
  | true =>
    cases hports : raw.ports with
    | none => simp
    | some services =>
      cases hlookup : services.lookup target.service with
      | none => simp [hlookup]
      | some ports =>
        cases hrun : Walk.run E target.service ⟨[], []⟩ (publishedPorts services) with
        | error e => simp [hlookup, hrun]
        | ok w => simp [hlookup, hrun]

theorem validate_ok_order {raw raw' : ComposeText} {target : DockerTarget} {ms : List DockerPortMapping}
    (hcanonical : isCanonicalNodeDockerPortTarget target = true) (h : SameProject raw raw')
    (hok : validateDockerComposePortMappings E raw target = .ok ms) :
    validateDockerComposePortMappings E raw' target = .ok ms := by
  obtain ⟨hident, services, ports, w, hservices, hlookup, hrun, hbind⟩ := (validate_ok_iff hcanonical).1 hok
  have hports := h.ports
  rw [hservices] at hports
  obtain ⟨services', hservices', hsame⟩ : ∃ services', raw'.ports = some services' ∧ services.Same services' := by
    cases hp : raw'.ports with
    | none =>
      rw [hp] at hports
      cases hports
    | some services' =>
      rw [hp] at hports
      cases hports with
      | some hsame => exact ⟨services', rfl, hsame⟩
  obtain ⟨w', hrun', hmanaged⟩ := run_order hsame hrun
  refine (validate_ok_iff hcanonical).2 ⟨hident, services', ports, w', hservices', ?_, hrun', ?_⟩
  · rw [← hsame.lookup_eq, hlookup]
  · rw [hmanaged, ← bindManagedMapping_order h]
    exact hbind

/-! ## The results -/

/-- the listener is the parsed inline content of the one configuration the service mounts at the listener's path, which
no other service mounts -/
def InlineListener (E : NetEnv) (model : ListenerModel) (service : String) (listener : NodeListenerConfig) : Prop :=
  ∃ managed mount definition, model.services.lookup service = some managed ∧ listenerMounts managed.configs = [mount] ∧
    model.configs mount.source = some definition ∧ definition.file = "" ∧ definition.environment = "" ∧
    definition.external = false ∧ E.parseNodeListenerConfig definition.content = some listener ∧
    ∀ other ∈ model.services.entries, other.1 ≠ service → ∀ item ∈ other.2.configs, item.source ≠ mount.source

theorem listenerSource_ok {configs : List ConfigMount} {source : String} (h : listenerSource configs = .ok source)
    (hne : source ≠ "") : ∃ mount, listenerMounts configs = [mount] ∧ mount.source = source := by
  unfold listenerSource at h
  match hmounts : listenerMounts configs with
  | [] => simp_all
  | [mount] =>
    simp only [hmounts] at h
    split at h
    · cases h
    · exact ⟨mount, rfl, Except.ok.inj h⟩
  | _ :: _ :: _ => simp [hmounts] at h

theorem dockerNodeListenerFromCompose_ok {model : Option ListenerModel} {service : String} {listener : NodeListenerConfig}
    (h : dockerNodeListenerFromCompose E model service = .ok listener) :
    ∃ project, model = some project ∧ InlineListener E project service listener := by
  revert h
  fun_cases dockerNodeListenerFromCompose E model service
  all_goals
    intro h
    cases h
  -- the branch that returns a listener
  rename_i project managed hmanaged _ _ source hsource definition hdefinition hinline hunshared _ hparsed _ _
  obtain ⟨hne, hdefinition⟩ : source ≠ "" ∧ project.configs source = some definition := by simpa using hdefinition
  obtain ⟨mount, hmounts, rfl⟩ := listenerSource_ok hsource hne
  simp only [Bool.or_eq_true, bne_iff_ne, beq_iff_eq, not_or, not_not, Bool.not_eq_true] at hinline
  obtain ⟨⟨⟨-, hfile⟩, henvironment⟩, hexternal⟩ := hinline
  refine ⟨project, rfl, managed, mount, definition, hmanaged, hmounts, hdefinition, hfile, henvironment, hexternal, hparsed, ?_⟩
  intro other hother hname item hitem hsame
  refine hunshared (List.any_eq_true.2 ⟨other, hother, ?_⟩)
  simp only [Bool.and_eq_true, bne_iff_ne, List.any_eq_true, beq_iff_eq]
  exact ⟨hname, item, hitem, hsame⟩

theorem bindManagedMapping_ok {raw : ComposeText} {target : DockerTarget} {managed ms : List DockerPortMapping}
    (h : bindManagedMapping E raw target managed = .ok ms) :
    managed = ms ∧ (ms = [] ∨ ∃ m listener address, ms = [m] ∧
      dockerNodeListenerFromCompose E raw.listener target.service = .ok listener ∧
      E.parseAddrPort listener.bindAddress = some (address, m.containerPort.toNat)) := by
  unfold bindManagedMapping at h
  match managed with
  | [] =>
    obtain rfl := Except.ok.inj h
    exact ⟨rfl, .inl rfl⟩
  | [mapping] =>
    cases hlistener : dockerNodeListenerFromCompose E raw.listener target.service with
    | error e => simp [hlistener] at h
    | ok listener =>
      cases hport : dockerListenPort E listener.bindAddress with
      | error e => simp [hlistener, hport] at h
      | ok bindPort =>
        simp only [hlistener, hport] at h
        split_ifs at h with hsame
        obtain rfl := Except.ok.inj h
        obtain rfl : bindPort = mapping.containerPort := by simpa using hsame
        unfold dockerListenPort at hport
        split_ifs at hport
        cases haddr : E.parseAddrPort listener.bindAddress with
        | none => simp [haddr] at hport
        | some ap =>
          obtain ⟨address, port⟩ := ap
          simp only [haddr] at hport
          split_ifs at hport
          refine ⟨rfl, .inr ⟨mapping, listener, address, rfl, rfl, ?_⟩⟩
          rw [haddr, ← Except.ok.inj hport, Int.toNat_natCast]
  | _ :: _ :: _ => simp at h

/-- **The port mapping check of a Compose project.** For a canonical node target its outcome does not depend on the order in
which the services are visited. When it succeeds, no two published ports of the project conflict, and the managed service
publishes nothing, or exactly one unprivileged TCP port whose container port is the port of its inline listener. -/
theorem compose_port_check {E : NetEnv}
    (hround : ∀ text a, E.parseAddr text = some a → E.parseAddr (E.addrString a) = some a) {target : DockerTarget}
    (hcanonical : isCanonicalNodeDockerPortTarget target = true) :
    (∀ raw raw', SameProject raw raw' → (validateDockerComposePortMappings E raw target).toOption =
      (validateDockerComposePortMappings E raw' target).toOption) ∧
    ∀ raw ms, validateDockerComposePortMappings E raw target = .ok ms →
      ∃ services ports, raw.ports = some services ∧ services.lookup target.service = some ports ∧
        (∀ item ∈ publishedPorts services, (item.2.binding E).isSome = true) ∧
        ((publishedPorts services).Pairwise fun x y => ∀ b b', x.2.binding E = some b → y.2.binding E = some b' →
          ¬ b.Conflict E.isUnspecified b') ∧
        (ports = [] ∧ ms = [] ∨ ∃ p m listener address, ports = [p] ∧ ms = [m] ∧
          readComposePort E target.service p = .ok m ∧ (1024 ≤ m.publishedPort ∧ m.publishedPort ≤ 65535) ∧
          (1024 ≤ m.containerPort ∧ m.containerPort ≤ 65535) ∧ m.protocol = "tcp" ∧
          dockerNodeListenerFromCompose E raw.listener target.service = .ok listener ∧
          (∃ project, raw.listener = some project ∧ InlineListener E project target.service listener) ∧
          E.parseAddrPort listener.bindAddress = some (address, m.containerPort.toNat)) := by
  constructor
  · intro raw raw' hsame
    cases h : validateDockerComposePortMappings E raw target with
    | ok ms => rw [validate_ok_order hcanonical hsame h]
    | error e =>
      cases h' : validateDockerComposePortMappings E raw' target with
      | ok ms =>
        rw [validate_ok_order hcanonical hsame.symm h'] at h
        cases h
      | error e' => rfl
  · intro raw ms hok
    obtain ⟨-, services, ports, w, hservices, hlookup, hrun, hbind⟩ := (validate_ok_iff hcanonical).1 hok
    obtain ⟨hadmitted, hpair, rfl⟩ := (run_ok_iff List.Pairwise.nil).1 hrun
    obtain ⟨hmanaged, hlistener⟩ := bindManagedMapping_ok hbind
    refine ⟨services, ports, hservices, hlookup, ?_, ?_, ?_⟩
    · intro item hitem
      obtain ⟨entry, hread, -⟩ := hadmitted item hitem
      obtain ⟨-, b, hb, -⟩ := readComposePort_ok hread
      rw [hb]
      rfl
    · have hentries := List.pairwise_filterMap.1 hpair
      refine hentries.imp_of_mem ?_
      intro x y hx hy happart b b' hb hb' hconflict
      obtain ⟨ex, hreadx, -⟩ := hadmitted x hx
      obtain ⟨ey, hready, -⟩ := hadmitted y hy
      obtain ⟨-, bx, hbx, hrepx⟩ := readComposePort_ok hreadx
      obtain ⟨-, by_, hby, hrepy⟩ := readComposePort_ok hready
      obtain rfl := Option.some.inj (hbx.symm.trans hb)
      obtain rfl := Option.some.inj (hby.symm.trans hb')
      have hsame := samePublishedPort_of_conflict hround hrepx hrepy hconflict
      have hnot := happart ex (by simp [hreadx, Except.toOption]) ey (by simp [hready, Except.toOption])
      rw [Apart, hsame] at hnot
      cases hnot
    · -- the managed entries are those of the one service with the managed name
      have hitems : ((publishedPorts services).filter fun item => item.1 == target.service) =
          ports.map fun p => (target.service, p) := by
        rw [publishedPorts_filter, MapList.at_eq_of_lookup hlookup, List.flatMap_singleton]
      have hread : ∀ p ∈ ports, ∃ m, readComposePort E target.service p = .ok m ∧ managedPortAllowed p m = true := by
        intro p hp
        have hmem : (target.service, p) ∈ publishedPorts services :=
          (List.mem_filter.1 (hitems ▸ List.mem_map_of_mem hp : (target.service, p) ∈ _)).1
        obtain ⟨m, hm, hallowed⟩ := hadmitted _ hmem
        exact ⟨m, hm, hallowed rfl⟩
      have hentries : entries E (ports.map fun p => (target.service, p)) = ms := by
        rw [← hitems]
        simpa [managedEntries] using hmanaged
      clear hlookup hitems hmanaged
      cases ports with
      | nil => exact .inl ⟨rfl, hentries.symm⟩
      | cons p rest =>
        obtain ⟨m, hm, hallowed⟩ := hread p List.mem_cons_self
        rw [List.map_cons, entries_cons hm] at hentries
        rcases hlistener with rfl | ⟨m', listener, address, rfl, hlisten, haddr⟩
        · cases hentries
        · obtain ⟨rfl, hrest⟩ := List.cons.inj hentries
          have hnil : rest = [] := by
            cases rest with
            | nil => rfl
            | cons q rest =>
              obtain ⟨mq, hq, -⟩ := hread q (by simp)
              rw [List.map_cons, entries_cons hq] at hrest
              cases hrest
          subst hnil
          simp only [managedPortAllowed, Bool.not_eq_true', Bool.or_eq_false_iff, decide_eq_false_iff_not, not_lt,
            bne_eq_false_iff_eq] at hallowed
          obtain ⟨⟨⟨⟨⟨hc, hp⟩, hc'⟩, hp'⟩, htcp⟩, -⟩ := hallowed
          exact .inr ⟨p, m, listener, address, rfl, rfl, hm, ⟨hp, hp'⟩, ⟨hc, hc'⟩, htcp, hlisten,
            dockerNodeListenerFromCompose_ok hlisten, haddr⟩

namespace Sample

/-- the two addresses of the sample, the unspecified one and the loopback address -/
def env : NetEnv where
  Addr := Bool
  parseAddr := fun text => if text == "0.0.0.0" then some false else if text == "127.0.0.1" then some true else none
  addrString := fun a => if a then "127.0.0.1" else "0.0.0.0"
  is4In6 := fun _ => false
  isUnspecified := fun a => !a
  parseAddrPort := fun text => if text == "0.0.0.0:8080" then some (false, 8080) else none
  parseNodeListenerConfig := fun text => if text == "listener" then some ⟨"worker", "0.0.0.0:8080"⟩ else none

def target : DockerTarget := ⟨"worker", "ghcr.io/kome-lab/autostream-docker/worker"⟩

def worker : String × List DockerComposePort := ("worker", [⟨"", .number "8080", .string "8081", "tcp", "ingress"⟩])
def database : String × List DockerComposePort := ("db", [⟨"127.0.0.1", .number "5432", .string "5432", "", ""⟩])

def listener : ListenerModel where
  services := ⟨[("worker", ⟨fun name => if name == "CREDENTIALS_DIRECTORY" then
    some (.string "/run/autostream-credentials") else none,
    [⟨"node-listener", "/run/autostream-credentials/node-listener.json"⟩]⟩)], by decide⟩
  configs := fun name => if name == "node-listener" then some ⟨"listener", "", "", false⟩ else none

/-- a project with two services, and the same one visited the other way round -/
def project : ComposeText := ⟨some ⟨[worker, database], by decide⟩, some listener⟩
def projectReversed : ComposeText := ⟨some ⟨[database, worker], by decide⟩, some listener⟩

end Sample

theorem sample_project_passes : ∃ m : DockerPortMapping,
    (validateDockerComposePortMappings Sample.env Sample.projectReversed Sample.target).toOption = some [m] ∧
      m.containerPort = 8080 ∧ m.protocol = "tcp" := by
  have hround : ∀ text a, Sample.env.parseAddr text = some a →
      Sample.env.parseAddr (Sample.env.addrString a) = some a := fun _ a _ => by cases a <;> rfl
  have hcanonical : isCanonicalNodeDockerPortTarget Sample.target = true := by decide
  obtain ⟨horder, hsound⟩ := compose_port_check hround hcanonical
  have hok : validateDockerComposePortMappings Sample.env Sample.project Sample.target =
      .ok [⟨"", 8081, 8080, "tcp"⟩] := by decide
  have hsame : SameProject Sample.project Sample.projectReversed :=
    ⟨.some (List.Perm.swap _ _ _), .some ⟨List.Perm.refl _, rfl⟩⟩
  obtain ⟨services, ports, -, -, -, -, h⟩ := hsound _ _ hok
  rcases h with ⟨-, h⟩ | ⟨p, m, listener, address, -, hms, -, -, -, htcp, -⟩
  · cases h
  · refine ⟨m, ?_, ?_, htcp⟩
    · rw [← horder _ _ hsame, hok, hms]
      rfl
    · obtain rfl : (⟨"", 8081, 8080, "tcp"⟩ : DockerPortMapping) = m := by simpa using hms
      rfl

end AutostreamUpdater.Compose
