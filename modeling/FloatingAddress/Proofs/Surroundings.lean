import FloatingAddress.Proofs.Belief

/-!
# What an operation takes from the world

An operation takes at most one entry from each script of the world, and changes nothing
else of it but the clock. What holds of all entries to come therefore holds along every
session.

* `World.Passes`: at most one entry of each script has been handed out;
* `Keeper.perform_passes`: so it is from before any operation to after it;
* `World.Offers`: what holds of all entries to come;
* `Keeper.History.offers`: it goes on to hold;
* `Keeper.sample`, `Keeper.sampleWorld`: a keeper and a world to try things on.
-/

namespace FloatingAddress

open Provider

namespace Script

variable {α : Type}

/-- At most one entry has been handed out. -/
def Passes (s s' : Script α) : Prop :=
  s' = s ∨ s' = s.advance

/-- All entries to come have a property. -/
def All (p : α → Prop) (s : Script α) : Prop :=
  p s.next ∧ ∀ a ∈ s.later, p a

theorem All.advance
    {p : α → Prop}
    {s : Script α}
    (h : s.All p) :
    s.advance.All p := by
  obtain ⟨next, later⟩ := s
  cases later with
  | nil =>
      exact h
  | cons a rest =>
      exact List.forall_mem_cons.mp h.2

theorem All.imp
    {p q : α → Prop}
    {s : Script α}
    (h : s.All p)
    (himp : ∀ a, p a → q a) :
    s.All q :=
  ⟨himp _ h.1, fun a ha => himp a (h.2 a ha)⟩

theorem All.passes
    {p : α → Prop}
    {s s' : Script α}
    (h : s.All p)
    (hpasses : s.Passes s') :
    s'.All p := by
  rcases hpasses with rfl | rfl
  · exact h
  · exact h.advance

end Script

namespace World

/-- At most one entry of each script has been handed out. -/
structure Passes (w w' : World) : Prop where
  reactions : w.reactions.Passes w'.reactions
  identities : w.identities.Passes w'.identities
  sockets : w.sockets.Passes w'.sockets

theorem Passes.refl
    (w : World) :
    w.Passes w :=
  ⟨.inl rfl, .inl rfl, .inl rfl⟩

theorem passes_afterRequest
    (w : World) :
    w.Passes w.afterRequest :=
  ⟨.inr rfl, .inl rfl, .inl rfl⟩

end World

namespace IdentitySource

/-- A look-up leaves the clock and the requests to come alone. -/
theorem lookUp_reactions
    (source : IdentitySource)
    (w : World) :
    (source.lookUp.run w).state.reactions = w.reactions ∧
    (source.lookUp.run w).state.clock = w.clock := by
  cases source with
  | told =>
      exact ⟨rfl, rfl⟩
  | probed probe =>
      exact ⟨rfl, rfl⟩

/-- A look-up takes at most one entry from the scripts about the own address. -/
theorem lookUp_passes
    (source : IdentitySource)
    (w : World) :
    w.identities.Passes (source.lookUp.run w).state.identities ∧
    w.sockets.Passes (source.lookUp.run w).state.sockets := by
  cases source with
  | told =>
      exact ⟨.inr rfl, .inl rfl⟩
  | probed probe =>
      exact ⟨.inl rfl, .inr rfl⟩

end IdentitySource

namespace Keeper

variable {k : Keeper} {s : Situation} {o : Outcome Situation FailoverRecord}

@[simp] theorem reactions_afterLookUp
    (k : Keeper)
    (s : Situation) :
    (k.afterLookUp s).world.reactions = s.world.reactions :=
  (k.source.lookUp_reactions s.world).1

theorem passes_afterLookUp
    (k : Keeper)
    (s : Situation) :
    s.world.Passes (k.afterLookUp s).world := by
  obtain ⟨hidentities, hsockets⟩ := k.source.lookUp_passes s.world
  exact ⟨.inl (k.reactions_afterLookUp s), hidentities, hsockets⟩

theorem passes_of_request_lookUp
    (k : Keeper)
    (s : Situation) :
    s.world.Passes (k.afterLookUp s.answered).world := by
  obtain ⟨hidentities, hsockets⟩ := k.source.lookUp_passes s.answered.world
  exact ⟨.inr (k.reactions_afterLookUp s.answered), hidentities, hsockets⟩

theorem passes_of_lookUp_request
    (k : Keeper)
    (s : Situation) :
    s.world.Passes (k.afterLookUp s).world.afterRequest := by
  obtain ⟨hidentities, hsockets⟩ := k.source.lookUp_passes s.world
  refine ⟨.inr ?_, hidentities, hsockets⟩
  rw [World.afterRequest, reactions_afterLookUp]

theorem RefreshCourse.passes
    (h : RefreshCourse k s o) :
    s.world.Passes o.state.world := by
  cases h with
  | unsent hrequest hresult hstate hcontacts =>
      rw [hstate, Situation.world_afterFault]
      exact .refl _
  | refused hrequest hverdict hresult hstate hcontacts =>
      rw [hstate, Situation.world_afterFault]
      exact World.passes_afterRequest _
  | undecoded hrequest hbody hrecord hresult hstate hcontacts =>
      rw [hstate, Situation.world_afterFault]
      exact World.passes_afterRequest _
  | unidentified hrequest hbody hrecord hidentity hresult hstate hcontacts =>
      rw [hstate, Situation.world_afterFault]
      exact k.passes_of_request_lookUp s
  | compared hrequest hbody hrecord hidentity hresult hstate hcontacts =>
      rw [hstate, Situation.world_believing]
      exact k.passes_of_request_lookUp s

/-- A read of which a request can be made uses up one ending. -/
theorem RefreshCourse.reactions_of_request
    {r : Request}
    (h : RefreshCourse k s o)
    (hsent : k.client.request none = .ok r) :
    o.state.world.reactions = s.world.reactions.advance := by
  cases h with
  | unsent hrequest hresult hstate hcontacts =>
      rw [hsent] at hrequest
      cases hrequest
  | refused hrequest hverdict hresult hstate hcontacts =>
      rw [hstate, Situation.world_afterFault]
      rfl
  | undecoded hrequest hbody hrecord hresult hstate hcontacts =>
      rw [hstate, Situation.world_afterFault]
      rfl
  | unidentified hrequest hbody hrecord hidentity hresult hstate hcontacts =>
      rw [hstate, Situation.world_afterFault, reactions_afterLookUp]
      rfl
  | compared hrequest hbody hrecord hidentity hresult hstate hcontacts =>
      rw [hstate, Situation.world_believing, reactions_afterLookUp]
      rfl

theorem ClaimCourse.passes
    (h : ClaimCourse k s o) :
    s.world.Passes o.state.world := by
  cases h with
  | unidentified hidentity hresult hstate hcontacts =>
      rw [hstate, Situation.world_afterFault]
      exact k.passes_afterLookUp s
  | unsent hidentity hrequest hresult hstate hcontacts =>
      rw [hstate, Situation.world_afterFault]
      exact k.passes_afterLookUp s
  | refused hidentity hrequest hverdict hresult hstate hcontacts =>
      rw [hstate, Situation.world_afterFault]
      exact k.passes_of_lookUp_request s
  | undecoded hidentity hrequest hbody hrecord hresult hstate hcontacts =>
      rw [hstate, Situation.world_afterFault]
      exact k.passes_of_lookUp_request s
  | elsewhere hidentity hrequest hbody hrecord hother hresult hstate hcontacts =>
      rw [hstate, Situation.world_believing]
      exact k.passes_of_lookUp_request s
  | confirmed hidentity hrequest hbody hrecord hown hresult hstate hcontacts =>
      rw [hstate, Situation.world_believing]
      exact k.passes_of_lookUp_request s

/-- Any operation takes at most one entry from each script of the world. -/
theorem perform_passes
    (k : Keeper)
    (operation : Operation)
    (s : Situation) :
    s.world.Passes ((k.perform operation).run s).state.world := by
  cases k.perform_course operation s with
  | silent hoperation hends hstate hcontacts =>
      rw [hstate]
      exact .refl _
  | givenUp hoperation hends hstate hcontacts =>
      rw [hstate]
      exact .refl _
  | read hoperation hcourse hends hstate hcontacts =>
      rw [hstate]
      exact hcourse.passes
  | write hoperation hcourse hends hstate hcontacts =>
      rw [hstate]
      exact hcourse.passes

/-- A query that asks, and of which a request can be made, uses up one reaction. -/
theorem reactions_query_of_uncached
    {r : Request}
    (huncached : ¬k.AnswersFromCache s)
    (hrequest : k.client.request none = .ok r) :
    (k.report .query s).outcome.state.world.reactions = s.world.reactions.advance := by
  rw [report, perform_query_of_uncached huncached]
  exact (k.refresh_course (s.believing .unknown)).reactions_of_request hrequest

end Keeper

/-- What holds of all that a world has in store: of the endings that it offers to requests, and
of how sockets behave. -/
structure World.Offers
    (p : Ending → Prop)
    (q : SocketBehaviour → Prop)
    (w : World) : Prop where
  reactions : w.reactions.All fun reaction => p reaction.offer
  sockets : w.sockets.All q

/-- What a world has in store it has in store at every point of a session. -/
theorem Keeper.History.offers
    {k : Keeper}
    {p : Ending → Prop}
    {q : SocketBehaviour → Prop}
    {s s' : Situation}
    {reports : List Report}
    (h : k.History s reports s')
    (hoffers : s.world.Offers p q) :
    s'.world.Offers p q := by
  induction h with
  | start =>
      exact hoffers
  | clock h time ih =>
      exact ⟨ih.reactions, ih.sockets⟩
  | @perform reports s' h operation ih =>
      have hpasses := k.perform_passes operation s'
      exact ⟨ih.reactions.passes hpasses.reactions, ih.sockets.passes hpasses.sockets⟩

/-! ## A sample keeper -/

namespace Keeper

/-- A keeper that is told its own address. -/
def sample : Keeper where
  client :=
    { user := "robot-user"
      password := "s3cret-pass"
      address := .v4 (.ofNat 0xC6336407)
      baseUrl := "https://robot-ws.your-server.de"
      timeout := .real 5
      verbose := false
      localAddress := none
      source := .told }

/-- An answer that names the own address, and those that follow it. -/
def sampleWorld (later : List Reaction) : World where
  clock := 10000
  reactions :=
    ⟨⟨0, .answered 200 ("\x7b\"failover\": \x7b\"ip\": \"198.51.100.7\", "
      ++ "\"netmask\": \"255.255.255.255\", \"server_ip\": \"203.0.113.10\", "
      ++ "\"server_number\": 42, \"active_server_ip\": \"203.0.113.10\"\x7d\x7d")⟩, later⟩
  identities := ⟨.ok (.v4 (.ofNat 0xCB00710A)), []⟩
  sockets := ⟨.reports "203.0.113.10", []⟩

/-- The sample keeper sends its requests to a place. -/
theorem sample_request :
    ∃ r, sample.client.request none = .ok r ∧ r.url.IsAbsolute := by
  have hsent :
      (sample.client.request none).toOption.any (fun r => decide r.url.IsAbsolute) = true := by
    decide +kernel
  obtain ⟨r, hrequest, habsolute⟩ := exists_ok_of_toOption hsent
  exact ⟨r, hrequest, of_decide_eq_true habsolute⟩

end Keeper

end FloatingAddress
