import ReducedDowntime.Client.Transport
import ReducedDowntime.Log

/-!
# Service endpoints

The lifecycle manager of a server answers under `https://SERVER/lcm/api`, and the
appliance under `https://SERVER:5480`. A client logs in by posting to the session path
under the base address (`session`, or `api/session` for the appliance), after logging
the base it connects to.

Where no server answers, logging in ends there: with a `Connection` error naming the
session address in its written form, or, when that address does not read as one, with
an `Http` error about building the request.
-/

namespace ReducedDowntime.Client

/-- The component that reports the clients' errors. -/
def component : String := "rdu::vcenter::client"

/-- The base address of the lifecycle manager of a server. -/
def lifecycleBase (server : String) : String := "https://" ++ server ++ "/lcm/api"

/-- The base address of the appliance interface of a server. -/
def applianceBase (server : String) : String := "https://" ++ server ++ ":5480"

/-- The session path of the lifecycle manager. -/
def lifecycleSession : String := "session"

/-- The session path of the appliance interface. -/
def applianceSession : String := "api/session"

/-- Drops the slashes at the end of an address. -/
def trimSlashes (s : String) : String :=
  String.ofList ((s.toList.reverse.dropWhile (· == '/')).reverse)

/-- Logging in to the service at `base` where no server answers: the base is logged, then
the request fails. -/
def loginUnanswered (base session : String) : Logged UpgradeError :=
  let base := trimSlashes base
  let failure : TransportError := match target (base ++ "/" ++ session) with
    | .ok url => .connect url.render
    | .error e => e
  ⟨[⟨.info, .client, "Connecting on endpoint: " ++ base⟩], failure.toUpgradeError component⟩

end ReducedDowntime.Client
