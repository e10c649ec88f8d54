import ReducedDowntime.Spec.Init

/-!
# The init document an init spec makes

The init document is read by the service at JSON paths: `deployment.appliance.root_password`,
`deployment.location.vcenter.connection`, `cancellation_policy` and so on. This module says what
the document of an init spec holds at each of them.

* The managing server is known exactly when its three parts are given and none is empty, and
  it is made of them (`Credentials.ofParts_eq_some`).
* The document copies the target version, OVA location, repository and root password, does
  not verify the OVA's certificate, places the managing server's credentials both as the new
  appliance's location and as the source container or in neither place, and carries each
  policy exactly when it is asked for (`InitSpec.document_members`).
* Its JSON has a member for each part that is present and none for a part that is absent, at
  every level, and no `null` anywhere (`InitDocument.keys_toJson`,
  `InitDocument.deployment_keys`, `InitDocument.nullFree_toJson`).
-/

namespace ReducedDowntime

namespace Json

/-- The member names of an object, in order; a document of any other kind has none. -/
def keys : Json → List String
  | .obj fields => fields.map Prod.fst
  | _ => []

/-- The value at a path of member names, each looked up as `get?` does. -/
def atPath (j : Json) : List String → Option Json
  | [] => some j
  | k :: ks => (j.get? k).bind fun v => v.atPath ks

/-- A document with no `null` anywhere in it. -/
inductive NullFree : Json → Prop
  | bool (b : Bool) : NullFree (.bool b)
  | num (n : Number) : NullFree (.num n)
  | str (s : String) : NullFree (.str s)
  | arr (items : List Json) (h : ∀ j ∈ items, NullFree j) : NullFree (.arr items)
  | obj (fields : List (String × Json)) (h : ∀ m ∈ fields, NullFree m.2) : NullFree (.obj fields)

@[simp] theorem keys_obj (fields : List (String × Json)) : (Json.obj fields).keys = fields.map Prod.fst :=
  rfl

@[simp] theorem atPath_nil (j : Json) : j.atPath [] = some j := rfl

@[simp] theorem atPath_cons (j : Json) (k : String) (ks : List String) :
    j.atPath (k :: ks) = (j.get? k).bind fun v => v.atPath ks := rfl

@[simp] theorem get?_obj (fields : List (String × Json)) (k : String) :
    (Json.obj fields).get? k = (fields.reverse.find? fun m => m.1 == k).map (·.2) := rfl

@[simp] theorem nullFree_null : ¬ NullFree .null := fun h => by cases h

@[simp] theorem nullFree_bool (b : Bool) : NullFree (.bool b) := .bool b

@[simp] theorem nullFree_str (s : String) : NullFree (.str s) := .str s

@[simp] theorem nullFree_obj (fields : List (String × Json)) :
    NullFree (.obj fields) ↔ ∀ m ∈ fields, NullFree m.2 :=
  ⟨fun h => by cases h with | obj _ h => exact h, .obj fields⟩

end Json

/-! ## The managing server -/

/-- The managing server is known exactly when all three parts are given and none is empty,
and it is made of those parts. -/
theorem Credentials.ofParts_eq_some (h u p : Option String) (c : Credentials) :
    Credentials.ofParts h u p = some c ↔
      h = some c.hostname ∧ u = some c.username ∧ p = some c.password ∧
        c.hostname ≠ "" ∧ c.username ≠ "" ∧ c.password ≠ "" := by
  obtain ⟨ch, cu, cp⟩ := c
  rcases h with _ | h <;> rcases u with _ | u <;> rcases p with _ | p <;> simp [Credentials.ofParts]
  -- all three given: they make the server exactly when none is empty
  constructor
  · rintro ⟨⟨⟨hh, hu⟩, hp⟩, rfl, rfl, rfl⟩
    exact ⟨rfl, rfl, rfl, hh, hu, hp⟩
  · rintro ⟨rfl, rfl, rfl, hh, hu, hp⟩
    exact ⟨⟨⟨hh, hu⟩, hp⟩, rfl, rfl, rfl⟩

/-! ## The document's JSON -/

namespace InitDocument

/-- The members of the document's JSON are those of the parts present, in their order. -/
theorem keys_toJson (d : InitDocument) :
    d.toJson.keys = ["version", "deployment", "repository"] ++
      (d.automaticCancellation.map fun _ => "cancellation_policy").toList ++
      (d.preserveOriginalVmName.map fun _ => "post_upgrade_configuration").toList := by
  obtain ⟨_, _, _, _, _, _, _, ac, pv⟩ := d
  cases ac <;> cases pv <;> simp [toJson]

/-- The members of the deployment part are the appliance and those of the credentials
present. -/
theorem deployment_keys (d : InitDocument) :
    (d.toJson.atPath ["deployment"]).map Json.keys = some (["appliance"] ++
      (d.location.map fun _ => "location").toList ++
      (d.sourceContainer.map fun _ => "source_container").toList) := by
  obtain ⟨_, _, _, _, loc, src, _, ac, pv⟩ := d
  cases loc <;> cases src <;> cases ac <;> cases pv <;> simp [toJson, deploymentJson]

/-- Absent parts are left out rather than written as `null`, so the document holds none. -/
theorem nullFree_toJson (d : InitDocument) : d.toJson.NullFree := by
  obtain ⟨_, _, _, _, loc, src, _, ac, pv⟩ := d
  cases loc <;> cases src <;> cases ac <;> cases pv <;>
    simp [toJson, deploymentJson, locationJson, credentialsJson, cancellationJson, postUpgradeJson]

end InitDocument

/-! ## The document of a spec -/

namespace InitSpec

/-- The init document of a spec as the service receives it. -/
def payload (s : InitSpec) : Json := s.toDocument.value.toJson

/-- What the document of a spec holds at each path the service reads. -/
theorem payload_members (s : InitSpec) :
    s.payload.atPath ["version"] = some (.str s.targetVersion) ∧
    s.payload.atPath ["deployment", "appliance", "root_password"] = some (.str s.rootPassword) ∧
    s.payload.atPath ["deployment", "appliance", "ova_info"] =
      some (.obj [("location", .str s.targetOva), ("ssl_verify", .bool false)]) ∧
    s.payload.atPath ["repository", "address"] = some (.str s.targetUpgradeRepo) ∧
    s.payload.atPath ["deployment", "location", "vcenter", "connection"] =
      s.managingServer.map (fun c : Credentials => .obj [("hostname", .str c.hostname),
        ("username", .str c.username), ("password", .str c.password)]) ∧
    s.payload.atPath ["deployment", "source_container"] =
      s.managingServer.map (fun c : Credentials => .obj [("hostname", .str c.hostname),
        ("username", .str c.username), ("password", .str c.password)]) ∧
    s.payload.atPath ["cancellation_policy"] =
      (if s.autocancellation then some (.obj [("automatic", .bool true)]) else none) ∧
    s.payload.atPath ["post_upgrade_configuration"] =
      (if s.preserveOriginalName then
        some (.obj [("rename_vm_policy", .obj [("preserve_original_vm_name", .bool true)])])
      else none) := by
  obtain ⟨_, _, _, _, ac, pv, ms⟩ := s
  -- the three choices of the spec decide which parts the document has
  cases ms <;> cases ac <;> cases pv <;>
    simp [payload, toDocument, document, InitDocument.toJson, InitDocument.deploymentJson,
      InitDocument.locationJson, InitDocument.credentialsJson, InitDocument.cancellationJson,
      InitDocument.postUpgradeJson]

/-- The members of a spec's document, and of its deployment part, are those of the parts the
spec asks for. -/
theorem payload_keys (s : InitSpec) :
    s.payload.keys = ["version", "deployment", "repository"] ++
      (if s.autocancellation then ["cancellation_policy"] else []) ++
      (if s.preserveOriginalName then ["post_upgrade_configuration"] else []) ∧
    (s.payload.atPath ["deployment"]).map Json.keys =
      some (["appliance"] ++ if s.managingServer.isSome then ["location", "source_container"] else []) := by
  obtain ⟨_, _, _, _, ac, pv, ms⟩ := s
  refine ⟨?_, ?_⟩
  · rw [payload, InitDocument.keys_toJson]
    cases ac <;> cases pv <;> rfl
  · rw [payload, InitDocument.deployment_keys]
    cases ms <;> rfl

end InitSpec

/-- **The init document of a spec.** The managing server is known exactly when its three parts
are given and none is empty, and it is made of them. The document of a spec holds the target
version, the root password, the OVA location with certificate checks off, and the repository as
given; the managing server's credentials both as the new appliance's location and as the source
container when it is known, and in neither place otherwise; the cancellation policy exactly when
automatic cancellation is on and the renaming policy exactly when the original name is kept,
each set to `true`. Its members, and those of its deployment part, are exactly the parts
present, and it holds no `null`. -/
theorem init_document_members (h u p : Option String) (c : Credentials) (s : InitSpec) :
    (Credentials.ofParts h u p = some c ↔
      h = some c.hostname ∧ u = some c.username ∧ p = some c.password ∧
        c.hostname ≠ "" ∧ c.username ≠ "" ∧ c.password ≠ "") ∧
    s.payload.atPath ["version"] = some (.str s.targetVersion) ∧
    s.payload.atPath ["deployment", "appliance", "root_password"] = some (.str s.rootPassword) ∧
    s.payload.atPath ["deployment", "appliance", "ova_info"] =
      some (.obj [("location", .str s.targetOva), ("ssl_verify", .bool false)]) ∧
    s.payload.atPath ["repository", "address"] = some (.str s.targetUpgradeRepo) ∧
    s.payload.atPath ["deployment", "location", "vcenter", "connection"] =
      s.managingServer.map (fun c : Credentials => .obj [("hostname", .str c.hostname),
        ("username", .str c.username), ("password", .str c.password)]) ∧
    s.payload.atPath ["deployment", "source_container"] =
      s.managingServer.map (fun c : Credentials => .obj [("hostname", .str c.hostname),
        ("username", .str c.username), ("password", .str c.password)]) ∧
    s.payload.atPath ["cancellation_policy"] =
      (if s.autocancellation then some (.obj [("automatic", .bool true)]) else none) ∧
    s.payload.atPath ["post_upgrade_configuration"] =
      (if s.preserveOriginalName then
        some (.obj [("rename_vm_policy", .obj [("preserve_original_vm_name", .bool true)])])
      else none) ∧
    s.payload.keys = ["version", "deployment", "repository"] ++
      (if s.autocancellation then ["cancellation_policy"] else []) ++
      (if s.preserveOriginalName then ["post_upgrade_configuration"] else []) ∧
    (s.payload.atPath ["deployment"]).map Json.keys =
      some (["appliance"] ++ if s.managingServer.isSome then ["location", "source_container"] else []) ∧
    s.payload.NullFree := by
  obtain ⟨hversion, hroot, hova, hrepo, hlocation, hsource, hcancel, hpost⟩ := s.payload_members
  obtain ⟨hkeys, hdeployment⟩ := s.payload_keys
  exact ⟨Credentials.ofParts_eq_some h u p c, hversion, hroot, hova, hrepo, hlocation, hsource,
    hcancel, hpost, hkeys, hdeployment, InitDocument.nullFree_toJson _⟩

end ReducedDowntime
