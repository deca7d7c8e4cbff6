import FloatingAddress.Action

/-!
# Looking up the own address

A node is either told its own address or finds it by a probe. Either way a look-up
consults the world once.
-/

namespace FloatingAddress

/-- How a node learns its own address. -/
inductive IdentitySource
  | told
  | probed (probe : Probe)

namespace IdentitySource

/-- The address that a probe has found. -/
def found (result : Except Fault V4) : Except Fault Address :=
  result.map .v4

/-- The events of a probe: the steps of its socket, and its log line after them. -/
def probeEvents (run : ProbeRun) : List Event :=
  run.steps.map .socket
    ++ run.logged.toList.map (fun line => .logged ⟨.error, .words line⟩)
    ++ [.lookedUp (found run.result)]

/-- A look-up of the own address. -/
def lookUp : IdentitySource → Action World Address
  | told => fun w =>
      ⟨w.identities.next, w.afterTelling, [.lookedUp w.identities.next]⟩
  | probed probe => fun w =>
      let run := probe.run w.sockets.next
      ⟨found run.result, w.afterProbe, probeEvents run⟩

end IdentitySource
end FloatingAddress
