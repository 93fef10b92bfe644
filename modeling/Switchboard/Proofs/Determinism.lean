import Mathlib.Tactic
import Switchboard.Proofs.Dispatch

/-!
# Every request has one course

The stages of a request leave no choice, and every one of them leads on or ends the request.
-/

namespace Switchboard

namespace Chain

theorem exists_passes (path : String) (place : Nat) (entries : List (Middleware σ))
    (visit : Visit σ) :
    ∃ runs ending after, Passes path place entries visit runs ending after := by
  induction entries generalizing place visit with
  | nil => exact ⟨_, _, _, .done⟩
  | cons entry rest ih =>
    cases hscope : entry.scope.appliesTo path with
    | false =>
      obtain ⟨runs, ending, after, hrest⟩ := ih (place + 1) visit
      exact ⟨_, _, _, .skip hscope hrest⟩
    | true =>
      rcases hhandler : entry.handler path visit with ⟨(_ | _) | _, between⟩
      · exact ⟨_, _, _, .stop hscope hhandler⟩
      · obtain ⟨runs, ending, after, hrest⟩ := ih (place + 1) between
        exact ⟨_, _, _, .pass hscope hhandler hrest⟩
      · exact ⟨_, _, _, .panic hscope hhandler⟩

theorem Passes.unique {path : String} {place : Nat} {entries : List (Middleware σ)}
    {visit after other : Visit σ} {runs others : List Run}
    {ending last : Ending (Except ServiceError Unit)}
    (h : Passes path place entries visit runs ending after)
    (h' : Passes path place entries visit others last other) :
    runs = others ∧ ending = last ∧ after = other := by
  induction h generalizing others last with
  | done =>
    cases h'
    exact ⟨rfl, rfl, rfl⟩
  | skip hscope _ ih =>
    cases h' with
    | skip _ hrest => exact ih hrest
    | pass hscope' | stop hscope' | panic hscope' => simp [hscope] at hscope'
  | pass hscope hhandler _ ih =>
    cases h' with
    | skip hscope' => simp [hscope] at hscope'
    | pass _ hhandler' hrest =>
      obtain ⟨-, rfl⟩ := Prod.mk.inj (hhandler.symm.trans hhandler')
      obtain ⟨rfl, rfl, rfl⟩ := ih hrest
      exact ⟨rfl, rfl, rfl⟩
    | stop _ hhandler' | panic _ hhandler' => simp [hhandler] at hhandler'
  | stop hscope hhandler =>
    cases h' with
    | skip hscope' => simp [hscope] at hscope'
    | pass _ hhandler' | panic _ hhandler' => simp [hhandler] at hhandler'
    | stop _ hhandler' =>
      rw [hhandler] at hhandler'
      cases hhandler'
      exact ⟨rfl, rfl, rfl⟩
  | panic hscope hhandler =>
    cases h' with
    | skip hscope' => simp [hscope] at hscope'
    | pass _ hhandler' | stop _ hhandler' => simp [hhandler] at hhandler'
    | panic _ hhandler' =>
      rw [hhandler] at hhandler'
      cases hhandler'
      exact ⟨rfl, rfl, rfl⟩

end Chain

namespace Server

theorem exists_calls_of_bound {server : Server σ} {address : Address} {plan : Plan σ}
    {params : Option Json} {visit between : Visit σ} {before : List Run}
    {method : Context → Action (World σ) (Except ServiceError (Option Json))}
    (hpasses : Chain.Passes address.path 0 server.chain.entries (Action.enterGuard visit) before
      (.returned (.ok ())) between)
    (hbind : plan.bind params = .ok method) :
    ∃ course, server.Calls address plan params visit course ∧
      course.runs = before ++ [.method address.space address.method between.context.method] := by
  rcases hmethod : method between.context between.world with
    ⟨(error | returned) | payload, world⟩
  · exact ⟨_, .failed hpasses hbind hmethod, rfl⟩
  · exact ⟨_, .completed hpasses hbind hmethod, rfl⟩
  · exact ⟨_, .crashed hpasses hbind hmethod, rfl⟩

theorem exists_calls (server : Server σ) (address : Address) (plan : Plan σ)
    (params : Option Json) (visit : Visit σ) :
    ∃ course, server.Calls address plan params visit course := by
  obtain ⟨runs, ending, between, hpasses⟩ :=
    Chain.exists_passes address.path 0 server.chain.entries (Action.enterGuard visit)
  rcases ending with (error | _) | payload
  · exact ⟨_, .stopped hpasses⟩
  · cases hbind : plan.bind params with
    | error error => exact ⟨_, .unbound hpasses hbind⟩
    | ok method =>
      obtain ⟨course, hcalls, -⟩ := exists_calls_of_bound hpasses hbind
      exact ⟨course, hcalls⟩
  · exact ⟨_, .stumbled hpasses⟩

private theorem bound_unique {path : String} {entries : List (Middleware σ)}
    {visit between other : Visit σ} {runs others : List Run} {plan : Plan σ}
    {params : Option Json}
    {method rival : Context → Action (World σ) (Except ServiceError (Option Json))}
    (hpasses : Chain.Passes path 0 entries visit runs (.returned (.ok ())) between)
    (hbind : plan.bind params = .ok method)
    (hpasses' : Chain.Passes path 0 entries visit others (.returned (.ok ())) other)
    (hbind' : plan.bind params = .ok rival) :
    runs = others ∧ between = other ∧ method = rival := by
  obtain ⟨hruns, -, hbetween⟩ := hpasses.unique hpasses'
  exact ⟨hruns, hbetween, Except.ok.inj (hbind.symm.trans hbind')⟩

theorem Calls.unique {server : Server σ} {address : Address} {plan : Plan σ}
    {params : Option Json} {visit : Visit σ} {course other : Course σ}
    (h : server.Calls address plan params visit course)
    (h' : server.Calls address plan params visit other) :
    course = other := by
  -- the chain ends in one way, and so do the binding and the method
  cases h with
  | stopped hpasses =>
    cases h' with
    | stopped hpasses' =>
      obtain ⟨rfl, hending, rfl⟩ := hpasses.unique hpasses'
      cases hending
      rfl
    | stumbled hpasses' | unbound hpasses' | failed hpasses' | crashed hpasses'
    | completed hpasses' => exact absurd (hpasses.unique hpasses').2.1 (by simp)
  | stumbled hpasses =>
    cases h' with
    | stumbled hpasses' =>
      obtain ⟨rfl, hending, rfl⟩ := hpasses.unique hpasses'
      cases hending
      rfl
    | stopped hpasses' | unbound hpasses' | failed hpasses' | crashed hpasses'
    | completed hpasses' => exact absurd (hpasses.unique hpasses').2.1 (by simp)
  | unbound hpasses hbind =>
    cases h' with
    | unbound hpasses' hbind' =>
      obtain ⟨rfl, -, rfl⟩ := hpasses.unique hpasses'
      rw [hbind] at hbind'
      cases hbind'
      rfl
    | stopped hpasses' | stumbled hpasses' =>
      exact absurd (hpasses.unique hpasses').2.1 (by simp)
    | failed _ hbind' | crashed _ hbind' | completed _ hbind' => simp [hbind] at hbind'
  | failed hpasses hbind hmethod =>
    cases h' with
    | failed hpasses' hbind' hmethod' =>
      obtain ⟨rfl, rfl, rfl⟩ := bound_unique hpasses hbind hpasses' hbind'
      rw [hmethod] at hmethod'
      cases hmethod'
      rfl
    | crashed hpasses' hbind' hmethod' | completed hpasses' hbind' hmethod' =>
      obtain ⟨rfl, rfl, rfl⟩ := bound_unique hpasses hbind hpasses' hbind'
      simp [hmethod] at hmethod'
    | stopped hpasses' | stumbled hpasses' =>
      exact absurd (hpasses.unique hpasses').2.1 (by simp)
    | unbound _ hbind' => simp [hbind] at hbind'
  | crashed hpasses hbind hmethod =>
    cases h' with
    | crashed hpasses' hbind' hmethod' =>
      obtain ⟨rfl, rfl, rfl⟩ := bound_unique hpasses hbind hpasses' hbind'
      rw [hmethod] at hmethod'
      cases hmethod'
      rfl
    | failed hpasses' hbind' hmethod' | completed hpasses' hbind' hmethod' =>
      obtain ⟨rfl, rfl, rfl⟩ := bound_unique hpasses hbind hpasses' hbind'
      simp [hmethod] at hmethod'
    | stopped hpasses' | stumbled hpasses' =>
      exact absurd (hpasses.unique hpasses').2.1 (by simp)
    | unbound _ hbind' => simp [hbind] at hbind'
  | completed hpasses hbind hmethod =>
    cases h' with
    | completed hpasses' hbind' hmethod' =>
      obtain ⟨rfl, rfl, rfl⟩ := bound_unique hpasses hbind hpasses' hbind'
      rw [hmethod] at hmethod'
      cases hmethod'
      rfl
    | failed hpasses' hbind' hmethod' | crashed hpasses' hbind' hmethod' =>
      obtain ⟨rfl, rfl, rfl⟩ := bound_unique hpasses hbind hpasses' hbind'
      simp [hmethod] at hmethod'
    | stopped hpasses' | stumbled hpasses' =>
      exact absurd (hpasses.unique hpasses').2.1 (by simp)
    | unbound _ hbind' => simp [hbind] at hbind'

theorem exists_takes (server : Server σ) (body : List UInt8) (visit : Visit σ) :
    ∃ course, server.Takes body visit course := by
  cases hparse : Message.parse body with
  | error error => exact ⟨_, .unread hparse⟩
  | ok message =>
    by_cases hid : message.Identified
    · cases hsplit : Naming.splitPath message.method.toList with
      | none => exact ⟨_, .unsplit hparse hid ((Naming.splitPath_eq_none_iff _).1 hsplit)⟩
      | some parts =>
        obtain ⟨hmethod, hfirst⟩ := (Naming.splitPath_eq_some_iff _ parts.1 parts.2).1 hsplit
        have hasks : server.Asks body message _ :=
          ⟨hparse, hid, parts.1, parts.2, hmethod, hfirst, rfl⟩
        cases hservice : server.registry.service? (server.options.naming.fold _) with
        | none => exact ⟨_, .unknownSpace hasks hservice⟩
        | some entry =>
          cases hfound : entry.methods.get? (server.options.naming.fold _) with
          | none => exact ⟨_, .unknownMethod hasks hservice hfound⟩
          | some plan =>
            have htargets : server.Targets body message _ plan :=
              ⟨hasks, entry, hservice, hfound⟩
            obtain ⟨course, hcalls⟩ := server.exists_calls _ plan message.params (visit.at _)
            exact ⟨course, .called htargets hcalls⟩
    · exact ⟨_, .unidentified hparse hid⟩

theorem Asks.unique {server : Server σ} {body : List UInt8} {message other : Message}
    {address elsewhere : Address} (h : server.Asks body message address)
    (h' : server.Asks body other elsewhere) :
    message = other ∧ address = elsewhere := by
  obtain rfl : message = other := Except.ok.inj (h.parsed.symm.trans h'.parsed)
  exact ⟨rfl, Except.ok.inj ((address_of_asks h).symm.trans (address_of_asks h'))⟩

theorem Targets.plan_eq {server : Server σ} {body elsewhere : List UInt8}
    {message other : Message} {address : Address} {plan rival : Plan σ}
    (h : server.Targets body message address plan)
    (h' : server.Targets elsewhere other address rival) :
    plan = rival := by
  obtain ⟨entry, hservice, hfound⟩ := h.found
  obtain ⟨_, hservice', hfound'⟩ := h'.found
  rw [hservice] at hservice'
  cases hservice'
  exact Option.some.inj (hfound.symm.trans hfound')

theorem Targets.unique {server : Server σ} {body : List UInt8} {message other : Message}
    {address elsewhere : Address} {plan rival : Plan σ}
    (h : server.Targets body message address plan)
    (h' : server.Targets body other elsewhere rival) :
    message = other ∧ address = elsewhere ∧ plan = rival := by
  obtain ⟨rfl, rfl⟩ := h.toAsks.unique h'.toAsks
  exact ⟨rfl, rfl, h.plan_eq h'⟩

private theorem Asks.not_early {server : Server σ} {body : List UInt8} {message : Message}
    {address : Address} (h : server.Asks body message address) :
    (∀ error, Message.parse body ≠ .error error) ∧
      ∀ other, Message.parse body = .ok other →
        other.Identified ∧ separator ∈ other.method.toList := by
  obtain ⟨first, second, hmethod, -, -⟩ := h.named
  refine ⟨fun error herror => by simp [h.parsed] at herror, fun other hother => ?_⟩
  obtain rfl : message = other := Except.ok.inj (h.parsed.symm.trans hother)
  refine ⟨h.identified, ?_⟩
  rw [hmethod]
  simp

theorem Takes.unique {server : Server σ} {body : List UInt8} {visit : Visit σ}
    {course other : Course σ} (h : server.Takes body visit course)
    (h' : server.Takes body visit other) :
    course = other := by
  -- two rules disagree on the text, the id, the separator or a lookup
  cases h with
  | unread hparse =>
    cases h' with
    | unread hparse' =>
      rw [hparse] at hparse'
      cases hparse'
      rfl
    | unidentified hparse' | unsplit hparse' => simp [hparse] at hparse'
    | unknownSpace hasks | unknownMethod hasks => exact absurd hparse (hasks.not_early.1 _)
    | called htargets => exact absurd hparse (htargets.not_early.1 _)
  | unidentified hparse hid =>
    cases h' with
    | unread hparse' => simp [hparse] at hparse'
    | unidentified => rfl
    | unsplit hparse' hid' =>
      rw [hparse] at hparse'
      cases hparse'
      exact absurd hid' hid
    | unknownSpace hasks | unknownMethod hasks =>
      exact absurd (hasks.not_early.2 _ hparse).1 hid
    | called htargets => exact absurd (htargets.not_early.2 _ hparse).1 hid
  | unsplit hparse hid hmethod =>
    cases h' with
    | unread hparse' => simp [hparse] at hparse'
    | unidentified hparse' hid' =>
      rw [hparse] at hparse'
      cases hparse'
      exact absurd hid hid'
    | unsplit => rfl
    | unknownSpace hasks | unknownMethod hasks =>
      exact absurd (hasks.not_early.2 _ hparse).2 hmethod
    | called htargets => exact absurd (htargets.not_early.2 _ hparse).2 hmethod
  | unknownSpace hasks hservice =>
    cases h' with
    | unread hparse' => exact absurd hparse' (hasks.not_early.1 _)
    | unidentified hparse' hid' => exact absurd (hasks.not_early.2 _ hparse').1 hid'
    | unsplit hparse' _ hmethod' => exact absurd (hasks.not_early.2 _ hparse').2 hmethod'
    | unknownSpace hasks' =>
      obtain ⟨rfl, rfl⟩ := hasks.unique hasks'
      rfl
    | unknownMethod hasks' hservice' =>
      obtain ⟨rfl, rfl⟩ := hasks.unique hasks'
      simp [hservice] at hservice'
    | called htargets =>
      obtain ⟨rfl, rfl⟩ := hasks.unique htargets.toAsks
      obtain ⟨entry, hservice', -⟩ := htargets.found
      simp [hservice] at hservice'
  | unknownMethod hasks hservice hmethod =>
    cases h' with
    | unread hparse' => exact absurd hparse' (hasks.not_early.1 _)
    | unidentified hparse' hid' => exact absurd (hasks.not_early.2 _ hparse').1 hid'
    | unsplit hparse' _ hmethod' => exact absurd (hasks.not_early.2 _ hparse').2 hmethod'
    | unknownSpace hasks' hservice' =>
      obtain ⟨rfl, rfl⟩ := hasks.unique hasks'
      simp [hservice] at hservice'
    | unknownMethod hasks' =>
      obtain ⟨rfl, rfl⟩ := hasks.unique hasks'
      rfl
    | called htargets =>
      obtain ⟨rfl, rfl⟩ := hasks.unique htargets.toAsks
      obtain ⟨entry, hservice', hfound⟩ := htargets.found
      rw [hservice] at hservice'
      cases hservice'
      simp [hmethod] at hfound
  | called htargets hcalls =>
    cases h' with
    | unread hparse' => exact absurd hparse' (htargets.not_early.1 _)
    | unidentified hparse' hid' => exact absurd (htargets.not_early.2 _ hparse').1 hid'
    | unsplit hparse' _ hmethod' => exact absurd (htargets.not_early.2 _ hparse').2 hmethod'
    | unknownSpace hasks' hservice' =>
      obtain ⟨rfl, rfl⟩ := hasks'.unique htargets.toAsks
      obtain ⟨entry, hservice, -⟩ := htargets.found
      simp [hservice] at hservice'
    | unknownMethod hasks' hservice' hmethod' =>
      obtain ⟨rfl, rfl⟩ := hasks'.unique htargets.toAsks
      obtain ⟨entry, hservice, hfound⟩ := htargets.found
      rw [hservice] at hservice'
      cases hservice'
      simp [hmethod'] at hfound
    | called htargets' hcalls' =>
      obtain ⟨rfl, rfl, rfl⟩ := htargets.unique htargets'
      exact hcalls.unique hcalls'

theorem existsUnique_takes (server : Server σ) (body : List UInt8) (visit : Visit σ) :
    ∃ course, ∀ other, server.Takes body visit other ↔ other = course := by
  obtain ⟨course, hcourse⟩ := server.exists_takes body visit
  exact ⟨course, fun other => ⟨fun h => h.unique hcourse, fun h => h ▸ hcourse⟩⟩

end Server

end Switchboard
