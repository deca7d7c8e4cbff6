import FloatingAddress.Proofs.SideBySide
import FloatingAddress.Proofs.Surroundings

/-!
# Only the class of a status matters

Of an answer with a status below 500 only the body has an effect, of one with a status of 500
or above only the status. Two worlds whose answers differ in nothing else cannot be told
apart by what a client or a keeper does in them: results, beliefs, times, log lines, requests
and look-ups are the same, in the same order.

* `Ending.SameClass`, `World.SameClasses`: endings and worlds that differ in nothing else;
* `Event.unended`: what is seen of an event: of a request all but how it ended;
* `Keeper.twins_of_sameClasses`: a keeper is its own twin in such worlds;
* `status_classes_unseen`: sessions and sequences of calls look the same in them.
-/

namespace FloatingAddress

/-! ## Endings, scripts and worlds of the same classes -/

/-- Two endings that differ at most in what has no effect: in statuses below 500, or in the
bodies that come with a status of 500 or above. -/
inductive Ending.SameClass : Ending → Ending → Prop
  | same (e : Ending) :
      SameClass e e
  | handedOn {status status' : Int} (body : Text)
      (h : status < 500)
      (h' : status' < 500) :
      SameClass (.answered status body) (.answered status' body)
  | refused {status : Int} (body body' : Text)
      (h : 500 ≤ status) :
      SameClass (.answered status body) (.answered status body')

/-- Two reactions that take the same time and offer endings of the same class. -/
structure Reaction.SameClass (r r' : Reaction) : Prop where
  delay : r.delay = r'.delay
  offer : r.offer.SameClass r'.offer

/-- Two scripts whose entries are related one by one. -/
structure Script.Related {α : Type} (R : α → α → Prop) (s s' : Script α) : Prop where
  next : R s.next s'.next
  later : List.Forall₂ R s.later s'.later

/-- Two worlds that differ at most in what has no effect of the endings that they offer. -/
structure World.SameClasses (w w' : World) : Prop where
  clock : w.clock = w'.clock
  reactions : w.reactions.Related Reaction.SameClass w'.reactions
  identities : w.identities = w'.identities
  sockets : w.sockets = w'.sockets

/-- What is seen of an event: of a request all but how it ended. -/
def Event.unended : Event → Event ⊕ Request × Float
  | .requested r _ time => .inr (r, time)
  | e => .inl e

theorem Script.Related.advance
    {α : Type}
    {R : α → α → Prop}
    {s s' : Script α}
    (h : s.Related R s') :
    s.advance.Related R s'.advance := by
  obtain ⟨next, later⟩ := s
  obtain ⟨next', later'⟩ := s'
  obtain ⟨hnext, hlater⟩ := h
  cases hlater with
  | nil =>
      exact ⟨hnext, .nil⟩
  | cons hfirst hrest =>
      exact ⟨hfirst, hrest⟩

theorem World.SameClasses.afterRequest
    {w w' : World}
    (h : w.SameClasses w') :
    w.afterRequest.SameClasses w'.afterRequest := by
  refine ⟨?_, h.reactions.advance, h.identities, h.sockets⟩
  simp only [World.afterRequest, h.clock, h.reactions.next.delay]

/-- Where an answer comes from does not depend on the answer. -/
theorem Ending.SameClass.met
    {e e' : Ending}
    (h : e.SameClass e')
    (r : Request) :
    (r.met e).SameClass (r.met e') := by
  by_cases hurl : r.url.IsAbsolute
  · cases h with
    | same e =>
        exact .same _
    | handedOn body h h' =>
        simpa only [Request.met, if_pos hurl] using handedOn body h h'
    | refused body body' h =>
        simpa only [Request.met, if_pos hurl] using refused body body' h
  · cases h with
    | same e =>
        exact .same _
    | handedOn body h h' =>
        simpa only [Request.met, if_neg hurl] using same _
    | refused body body' h =>
        simpa only [Request.met, if_neg hurl] using same _

/-- A look-up sees nothing of how requests end. -/
theorem IdentitySource.lookUp_alike
    (source : IdentitySource) :
    Action.Alike (some ∘ Event.unended) World.SameClasses source.lookUp source.lookUp := by
  intro w w' hw
  have hidentities := hw.identities
  have hsockets := hw.sockets
  cases source with
  | told =>
      simp only [lookUp, Action.run, hidentities]
      exact ⟨rfl, ⟨hw.clock, hw.reactions, congrArg Script.advance hidentities, hsockets⟩, rfl⟩
  | probed probe =>
      simp only [lookUp, Action.run, hsockets]
      exact ⟨rfl, ⟨hw.clock, hw.reactions, hidentities, congrArg Script.advance hsockets⟩, rfl⟩

namespace Client

/-! ## Calls -/

/-- What comes of an ending is a matter of its class: the result, and the lines in the log. -/
theorem receive_congr
    {e e' : Ending}
    (h : e.SameClass e')
    (c : Client)
    (write : Bool) :
    c.verdict write e = c.verdict write e' ∧
    c.answerNotes e = c.answerNotes e' ∧
    c.refusalNotes write e = c.refusalNotes write e' := by
  cases h with
  | same e =>
      exact ⟨rfl, rfl, rfl⟩
  | handedOn body h h' =>
      have hstatus := Int.not_le.mpr h
      have hstatus' := Int.not_le.mpr h'
      simp [verdict, answerNotes, echoes, Ending.handedOn?, refusalNotes, hstatus, hstatus']
  | refused body body' h =>
      simp [verdict, answerNotes, echoes, Ending.handedOn?, refusalNotes, h]

theorem exchange_alike
    (c : Client)
    (write : Bool)
    (towards : Option Address) :
    Action.Alike (some ∘ Event.unended) World.SameClasses
      (c.exchange write towards) (c.exchange write towards) := by
  intro w w' hw
  cases hrequest : c.request towards with
  | error fault =>
      rw [exchange_unsent hrequest, exchange_unsent hrequest]
      exact ⟨rfl, hw, rfl⟩
  | ok r =>
      have hafter := hw.afterRequest
      obtain ⟨hverdict, hanswer, hrefusal⟩ :=
        receive_congr (hw.reactions.next.offer.met r) c write
      rw [exchange_sent hrequest, exchange_sent hrequest]
      refine ⟨hverdict, hafter, ?_⟩
      simp only [List.filterMap_append, List.filterMap_cons, hanswer, hrefusal,
        Function.comp_apply, Event.unended, hafter.clock]

theorem destination_alike
    (c : Client)
    (call : Call) :
    Action.Alike (some ∘ Event.unended) World.SameClasses
      (c.destination call) (c.destination call) := by
  unfold destination
  by_cases hwrite : call.write = true
  · simp only [if_pos hwrite]
    cases call.towards with
    | some a =>
        exact .pure _
    | none =>
        exact c.source.lookUp_alike.bind fun own => .pure _
  · simp only [if_neg hwrite]
    exact .pure _

/-- Any one call. -/
theorem query_alike_of_sameClasses
    (c : Client)
    (call : Call) :
    Action.Alike (some ∘ Event.unended) World.SameClasses (c.query call) (c.query call) :=
  (c.destination_alike call).bind fun towards => c.exchange_alike call.write towards

/-- Any sequence of calls. -/
theorem run_alike_of_sameClasses
    (c : Client)
    {w w' : World}
    (hw : w.SameClasses w')
    (calls : List Call) :
    List.Forall₂ (Outcome.Alike (some ∘ Event.unended) World.SameClasses)
      (c.run w calls) (c.run w' calls) := by
  induction calls generalizing w w' with
  | nil =>
      exact .nil
  | cons call calls ih =>
      have hcall := c.query_alike_of_sameClasses call w w' hw
      exact .cons hcall (ih hcall.state)

end Client

/-! ## Sessions -/

/-- In two worlds of the same classes a keeper is its own twin. -/
theorem Keeper.twins_of_sameClasses
    (k : Keeper) :
    Keeper.Twins (some ∘ Event.unended) World.SameClasses k k where
  ttl := rfl
  address := rfl
  endpoint := rfl
  clock := fun _ _ h => h.clock
  withClock := fun _ _ _ h => ⟨rfl, h.reactions, h.identities, h.sockets⟩
  calls := k.client.query_alike_of_sameClasses
  lookUps := k.source.lookUp_alike

/-- Only the class of a status matters: sessions and sequences of calls that differ in
nothing but the statuses below 500 and the bodies that come with other statuses end in the
same way step by step, with the same belief and time, and their traces are the same up to how
requests ended. -/
theorem status_classes_unseen :
    (∀ (k : Keeper) (s s' : Situation) (steps : List SessionStep),
      Situation.Linked World.SameClasses s s' →
        List.Forall₂ (Report.Alike (some ∘ Event.unended) World.SameClasses)
          (k.run s steps).1 (k.run s' steps).1 ∧
        Situation.Linked World.SameClasses (k.run s steps).2 (k.run s' steps).2) ∧
    (∀ (c : Client) (w w' : World) (calls : List Call),
      w.SameClasses w' →
        List.Forall₂ (Outcome.Alike (some ∘ Event.unended) World.SameClasses)
          (c.run w calls) (c.run w' calls)) :=
  ⟨fun k _ _ steps hs => k.twins_of_sameClasses.run hs steps,
    fun c _ _ calls hw => c.run_alike_of_sameClasses hw calls⟩

/-- The sample world with two answers: one with a status, and then a failure of the server
with a body. -/
def World.answering (status : Int) (body : Text) : World :=
  { Keeper.sampleWorld [] with
    reactions := ⟨⟨0, .answered status "\x7b\x7d"⟩, [⟨0, .answered 503 body⟩]⟩ }

/-- A status of 200 or of 404, and a failure with or without a body, look the same. -/
theorem status_classes_unseen_sample :
    (World.answering 200 []).SameClasses (World.answering 404 "busy") ∧
    List.Forall₂ (Report.Alike (some ∘ Event.unended) World.SameClasses)
      (Keeper.sample.run (.fresh (World.answering 200 []))
        [.perform .refresh, .perform .configure]).1
      (Keeper.sample.run (.fresh (World.answering 404 "busy"))
        [.perform .refresh, .perform .configure]).1 ∧
    List.Forall₂ (Outcome.Alike (some ∘ Event.unended) World.SameClasses)
      (Keeper.sample.client.run (World.answering 200 []) [{}, { write := true }])
      (Keeper.sample.client.run (World.answering 404 "busy") [{}, { write := true }]) := by
  have hfirst :
      Reaction.SameClass ⟨0, .answered 200 "\x7b\x7d"⟩ ⟨0, .answered 404 "\x7b\x7d"⟩ :=
    ⟨rfl, .handedOn _ (by decide) (by decide)⟩
  have hsecond : Reaction.SameClass ⟨0, .answered 503 []⟩ ⟨0, .answered 503 "busy"⟩ :=
    ⟨rfl, .refused _ _ (by decide)⟩
  have hworlds : (World.answering 200 []).SameClasses (World.answering 404 "busy") :=
    ⟨rfl, ⟨hfirst, .cons hsecond .nil⟩, rfl, rfl⟩
  have hlinked :
      Situation.Linked World.SameClasses (.fresh (World.answering 200 []))
        (.fresh (World.answering 404 "busy")) :=
    ⟨rfl, hworlds⟩
  exact
    ⟨hworlds,
      (status_classes_unseen.1 Keeper.sample _ _ _ hlinked).1,
      status_classes_unseen.2 Keeper.sample.client _ _ _ hworlds⟩

end FloatingAddress
