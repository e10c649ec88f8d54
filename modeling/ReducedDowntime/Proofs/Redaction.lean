import ReducedDowntime.Invocation.Settings

/-!
# Passwords stay out of diagnostics

The init document and the settings of a run hold passwords. The document holds the target's
root password and the managing server's password, once as the new appliance's location and
once as the source container; the settings hold the login password and, in their action, the
target's temporary password and the managing server's. Both are shown in diagnostics, and no
password counts there: two values that differ only in their passwords show the same text.

`withPasswords` replaces every password of a value, and each rendering is shown to ignore the
replacement, one structure at a time from the credentials up: an optional part shows the same
when the change does not show in its rendering (`InitDocument.optionText_map_of`). The document
shows each password as `[REDACTED]`; the settings show each as the text of the secret type,
which is a fixed text whatever the secret, and the result holds for every such text.
-/

namespace ReducedDowntime

/-! ## Replacing the passwords -/

/-- Credentials with another password. -/
def Credentials.withPassword (c : Credentials) (password : String) : Credentials :=
  { c with password := password }

/-- The document with its passwords replaced: the root password, and the password of each
credentials that is present. -/
def InitDocument.withPasswords (d : InitDocument) (root location source : String) : InitDocument :=
  { d with rootPassword := root
           location := d.location.map (·.withPassword location)
           sourceContainer := d.sourceContainer.map (·.withPassword source) }

/-- The spec with its passwords replaced: the target's temporary password, and the managing
server's when there is one. -/
def InitSpec.withPasswords (s : InitSpec) (target managing : String) : InitSpec :=
  { s with rootPassword := target, managingServer := s.managingServer.map (·.withPassword managing) }

/-- The action with the passwords of its init spec replaced. -/
def Action.withPasswords (target managing : String) : Action → Action
  | .step kind init apply autocancellation =>
    .step kind (init.map (·.withPasswords target managing)) apply autocancellation
  | .updatePlugin repo => .updatePlugin repo
  | .scenario kind request =>
    .scenario kind { request with init := request.init.withPasswords target managing }

/-- The settings with their passwords replaced: the login password and those of the action. -/
def Settings.withPasswords (s : Settings) (login target managing : String) : Settings :=
  { s with password := login, action := s.action.withPasswords target managing }

/-! ## The renderings ignore them -/

/-- An optional part shows the same after a change that does not show in its rendering. -/
theorem InitDocument.optionText_map_of {α : Type} {f : α → String} {g : α → α}
    (h : ∀ a, f (g a) = f a) (o : Option α) : optionText f (o.map g) = optionText f o := by
  cases o with
  | none => rfl
  | some a => simp only [Option.map_some, optionText, h]

/-- Credentials show their password as `[REDACTED]`. -/
theorem InitDocument.credentialsText_withPassword (c : Credentials) (password : String) :
    credentialsText (c.withPassword password) = credentialsText c := rfl

/-- The managing server of a spec shows its password as the secret's text. -/
theorem InitSpec.managingServerText_withPassword (secret : String) (c : Credentials)
    (password : String) : managingServerText secret (c.withPassword password) = managingServerText secret c :=
  rfl

/-- The document shows the same whatever its passwords. -/
theorem InitDocument.diagnostic_withPasswords (d : InitDocument) (root location source : String) :
    (d.withPasswords root location source).diagnostic = d.diagnostic := by
  -- the root password is not shown, and the credentials show theirs as `[REDACTED]`
  have hlocation := optionText_map_of (g := (·.withPassword location))
    (f := fun c => "Location \x7b vcenter: VcenterLocation \x7b connection: " ++ credentialsText c ++
      " \x7d \x7d") (fun _ => rfl) d.location
  have hsource := optionText_map_of (f := credentialsText) (g := (·.withPassword source))
    (credentialsText_withPassword · source) d.sourceContainer
  unfold diagnostic withPasswords
  rw [hlocation, hsource]

/-- A spec shows the same whatever its passwords. -/
theorem InitSpec.diagnostic_withPasswords (secret : String) (s : InitSpec) (target managing : String) :
    (s.withPasswords target managing).diagnostic secret = s.diagnostic secret := by
  -- the temporary password shows as the secret's text, and so does the managing server's
  have hmanaging := InitDocument.optionText_map_of (f := managingServerText secret)
    (g := (·.withPassword managing)) (managingServerText_withPassword secret · managing) s.managingServer
  unfold diagnostic withPasswords
  rw [hmanaging]

/-- An action shows the same whatever the passwords of its init spec. -/
theorem Action.diagnostic_withPasswords (secret : String) (a : Action) (target managing : String) :
    (a.withPasswords target managing).diagnostic secret = a.diagnostic secret := by
  cases a with
  | step kind init apply autocancellation =>
    have hinit := InitDocument.optionText_map_of (f := InitSpec.diagnostic secret)
      (g := (·.withPasswords target managing)) (InitSpec.diagnostic_withPasswords secret · target managing)
      init
    unfold withPasswords diagnostic
    dsimp only
    rw [hinit]
  | updatePlugin repo => rfl
  | scenario kind request =>
    unfold withPasswords diagnostic UpgradeRequest.diagnostic
    dsimp only
    rw [InitSpec.diagnostic_withPasswords]

/-- The settings show the same whatever their passwords. -/
theorem Settings.diagnostic_withPasswords (secret : String) (s : Settings) (login target managing : String) :
    (s.withPasswords login target managing).diagnostic secret = s.diagnostic secret := by
  -- the login password shows as the secret's text, and the action shows the same
  unfold diagnostic withPasswords
  rw [Action.diagnostic_withPasswords]

/-- **Passwords do not show in diagnostics.** Two init documents that differ only in the root
password and in the passwords of the new appliance's location and of the source container show
the same text; so do two settings that differ only in the login password, the target's
temporary password and the managing server's password, whatever fixed text a secret shows as. -/
theorem diagnostics_ignore_passwords :
    (∀ (d : InitDocument) (root location source : String),
      (d.withPasswords root location source).diagnostic = d.diagnostic) ∧
    ∀ (secret : String) (s : Settings) (login target managing : String),
      (s.withPasswords login target managing).diagnostic secret = s.diagnostic secret :=
  ⟨InitDocument.diagnostic_withPasswords, Settings.diagnostic_withPasswords⟩

end ReducedDowntime
