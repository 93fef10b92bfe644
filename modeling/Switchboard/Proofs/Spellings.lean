import Mathlib.Tactic
import Switchboard.Proofs.Addresses
import Switchboard.Proofs.Enrolments
import Switchboard.Proofs.Folding

/-!
# Spellings of methods

Names are folded when they are registered and when they are called. A call runs the method of the
entry of its folded names, so that it may spell a method as it was declared or, in ASCII, as it is
advertised.
-/

namespace Switchboard

namespace Server

/-- All that a server does for a message is what a course says: dispatch ends with what makes the
reply at its last stage, and a body that spells the message is answered with this reply after what
the course runs. -/
structure Follows (server : Server σ) (message : Message) (visit : Visit σ)
    (course : Course σ) : Prop where
  outcome : ∀ log, ∃ outcome noted,
    server.outcome message ⟨visit, log⟩ = (.returned outcome, ⟨course.after, noted⟩) ∧
      conclude message outcome = course.stage.reply server.options message
  handle : ∀ body, Message.parse body = .ok message → ∀ log, ∃ noted,
    server.handle body ⟨visit, log⟩ =
      (.returned (course.stage.reply server.options message), ⟨course.after, noted⟩)
  runs : ∀ body, Message.parse body = .ok message → server.runs body visit = course.runs

/-- A message is dispatched to a plan: its method is split and folded, the registry has the plan
under the two names, and all that the server does for the message is a call of the plan. -/
def DispatchesTo (server : Server σ) (message : Message) (plan : Plan σ) : Prop :=
  ∃ address, server.address message = .ok address ∧
    server.registry.resolve address.space address.method = .ok plan ∧
    ∀ visit, ∃ course,
      server.Calls address plan message.params (visit.at address.path) course ∧
        server.Follows message visit course

theorem asks_of_address {server : Server σ} {body : List UInt8} {message : Message}
    {address : Address} (hparse : Message.parse body = .ok message)
    (h : server.address message = .ok address) : server.Asks body message address := by
  by_cases hid : message.Identified
  · cases hsplit : Naming.splitPath message.method.toList with
    | none =>
      rw [address_of_unsplit hid ((Naming.splitPath_eq_none_iff _).1 hsplit)] at h
      cases h
    | some parts =>
      obtain ⟨hmethod, hfirst⟩ := (Naming.splitPath_eq_some_iff _ parts.1 parts.2).1 hsplit
      rw [address_of_split hid hmethod hfirst] at h
      exact ⟨hparse, hid, parts.1, parts.2, hmethod, hfirst, (Except.ok.inj h).symm⟩
  · rw [address_of_unidentified hid] at h
    cases h

theorem Calls.follows {server : Server σ} {message : Message} {address : Address} {plan : Plan σ}
    {visit : Visit σ} {course : Course σ}
    (h : server.Calls address plan message.params (visit.at address.path) course)
    (haddress : server.address message = .ok address)
    (hresolve : server.registry.resolve address.space address.method = .ok plan) :
    server.Follows message visit course := by
  have htakes : ∀ body, Message.parse body = .ok message → server.Takes body visit course :=
    fun body hparse => .called ⟨asks_of_address hparse haddress,
      Registry.resolve_eq_ok_iff.1 hresolve⟩ h
  constructor
  case outcome => exact h.outcome haddress hresolve
  case handle =>
    intro body hparse log
    obtain ⟨noted, hhandle⟩ := (htakes body hparse).handle log
    rw [Message.sent_of_ok hparse] at hhandle
    exact ⟨noted, hhandle⟩
  case runs => exact fun body hparse => (htakes body hparse).runs_eq

theorem dispatchesTo_iff {server : Server σ} {message : Message} {plan : Plan σ} :
    server.DispatchesTo message plan ↔ ∃ address, server.address message = .ok address ∧
      server.registry.resolve address.space address.method = .ok plan := by
  constructor
  · rintro ⟨address, haddress, hresolve, -⟩
    exact ⟨address, haddress, hresolve⟩
  · rintro ⟨address, haddress, hresolve⟩
    refine ⟨address, haddress, hresolve, fun visit => ?_⟩
    obtain ⟨course, hcalls⟩ :=
      server.exists_calls address plan message.params (visit.at address.path)
    exact ⟨course, hcalls, hcalls.follows haddress hresolve⟩

theorem DispatchesTo.runs_of_bound {server : Server σ} {message : Message} {plan : Plan σ}
    (h : server.DispatchesTo message plan) {body : List UInt8}
    (hparse : Message.parse body = .ok message) :
    ∃ address, server.Targets body message address plan ∧
      ∀ visit before between method,
        Chain.Passes address.path 0 server.chain.entries
          (Action.enterGuard (visit.at address.path)) before (.returned (.ok ())) between →
        plan.bind message.params = .ok method →
        server.runs body visit =
          before ++ [.method address.space address.method between.context.method] := by
  obtain ⟨address, haddress, hresolve, hcourse⟩ := h
  refine ⟨address, ⟨asks_of_address hparse haddress, Registry.resolve_eq_ok_iff.1 hresolve⟩, ?_⟩
  intro visit before between method hpasses hbind
  obtain ⟨course, hcalls, hfollows⟩ := hcourse visit
  rw [hfollows.runs body hparse, hcalls.runs_of_bound hpasses hbind]

theorem DispatchesTo.runs_of_idle {server : Server σ} {message : Message} {plan : Plan σ}
    {address : Address} {body : List UInt8}
    {method : Context → Action (World σ) (Except ServiceError (Option Json))}
    (h : server.DispatchesTo message plan) (hchain : server.chain.entries = [])
    (haddress : server.address message = .ok address) (hparse : Message.parse body = .ok message)
    (hbind : plan.bind message.params = .ok method) (visit : Visit σ) :
    server.runs body visit = [.method address.space address.method address.path] := by
  obtain ⟨other, htargets, hruns⟩ := h.runs_of_bound hparse
  obtain rfl := Except.ok.inj (haddress.symm.trans (address_of_asks htargets.toAsks))
  have hpasses : Chain.Passes address.path 0 server.chain.entries
      (Action.enterGuard (visit.at address.path)) [] (.returned (.ok ()))
      (Action.enterGuard (visit.at address.path)) := by
    rw [hchain]
    exact .done
  exact hruns visit _ _ _ hpasses hbind

/-- A method is run for a message that is dispatched to its plan, and for no other. -/
theorem dispatchesTo_of_run {server : Server σ} {body : List UInt8} {message : Message}
    (hparse : Message.parse body = .ok message) {visit : Visit σ} {space name seen : String}
    (hrun : .method space name seen ∈ server.runs body visit) :
    ∃ entry plan, server.address message = .ok ⟨space, name⟩ ∧
      server.registry.service? space = some entry ∧ entry.methods.get? name = some plan ∧
      server.DispatchesTo message plan := by
  obtain ⟨course, htakes⟩ := server.exists_takes body visit
  rw [htakes.runs_eq] at hrun
  cases htakes with
  | unread | unidentified | unsplit | unknownSpace | unknownMethod => cases hrun
  | @called _ plan _ address htargets hcalls =>
    obtain rfl := Except.ok.inj (hparse.symm.trans htargets.parsed)
    obtain ⟨rfl, -⟩ := hcalls.method_sees hrun
    obtain ⟨entry, hservice, hfound⟩ := htargets.found
    have haddress := address_of_asks htargets.toAsks
    exact ⟨entry, plan, haddress, hservice, hfound, dispatchesTo_iff.2
      ⟨_, haddress, Registry.resolve_of_found hservice hfound⟩⟩

theorem dispatchesTo_iff_of_split {message : Message} {first second : List Char}
    (hid : message.Identified) (hmethod : message.method.toList = first ++ separator :: second)
    (hfirst : separator ∉ first) (server : Server σ) (plan : Plan σ) :
    server.DispatchesTo message plan ↔
      ∃ entry, server.registry.service? (server.options.naming.fold (String.ofList first)) =
          some entry ∧
        entry.methods.get? (server.options.naming.fold (String.ofList second)) = some plan := by
  rw [dispatchesTo_iff, address_of_split hid hmethod hfirst]
  constructor
  · rintro ⟨_, haddress, hresolve⟩
    cases haddress
    exact Registry.resolve_eq_ok_iff.1 hresolve
  · exact fun h => ⟨_, rfl, Registry.resolve_eq_ok_iff.2 h⟩

/-- Where there is no middleware, a call that sends nothing is seen to run its method by a check of
its body. -/
theorem runs_of_spelling {server : Server σ} {plan : Plan σ} {body : List UInt8}
    {first second : String}
    {method : Context → Action (World σ) (Except ServiceError (Option Json))}
    (hchain : server.chain.entries = []) (hfirst : separator ∉ first.toList)
    (hcheck : (Message.parse body).toOption.any (fun message =>
      message.hasValidId && message.method == first ++ "." ++ second && message.params.isNone) =
        true)
    (hdispatches : ∀ message : Message, message.Identified →
      message.method = first ++ "." ++ second → server.DispatchesTo message plan)
    (hbind : plan.bind none = .ok method) (visit : Visit σ) :
    let address : Address := ⟨server.options.naming.fold first, server.options.naming.fold second⟩
    server.runs body visit = [.method address.space address.method address.path] := by
  intro address
  obtain ⟨message, hparse, hmessage⟩ := Message.exists_of_parse_any hcheck
  simp only [Bool.and_eq_true, beq_iff_eq, Option.isNone_iff_eq_none] at hmessage
  obtain ⟨⟨hid, hmethod⟩, hparams⟩ := hmessage
  rw [message.hasValidId_iff] at hid
  have hsplit : message.method.toList = first.toList ++ separator :: second.toList := by
    simp [hmethod, separator]
  have haddress : server.address message = .ok address := by
    rw [address_of_split hid hsplit hfirst, String.ofList_toList, String.ofList_toList]
  rw [← hparams] at hbind
  exact (hdispatches message hid hmethod).runs_of_idle hchain haddress hparse hbind visit

end Server

namespace Registry.Origin

variable {naming : Naming} {history earlier : List (Operation σ)} {entry : Entry σ}
  {registration : Registration σ}

theorem get?_of_mem (h : Origin naming history entry earlier registration) {name : String}
    {plan : Plan σ} (hmem : (name, plan) ∈ entry.methods.entries) :
    entry.methods.get? name = some plan := by
  rw [h.methods_eq] at hmem ⊢
  exact MethodTable.get?_ofPlans_of_mem hmem

/-- A declared method that is not hidden has a place in its entry, which the first one declared of
its folded name takes. -/
theorem exists_kept (h : Origin naming history entry earlier registration) {declared : Plan σ}
    (hdeclared : declared ∈ registration.plans)
    (hshown : ∀ hidden ∈ reservedNames ++ registration.excluded ++
      (replay naming earlier).globalExcludes, naming.fold hidden ≠ naming.fold declared.name) :
    ∃ kept, registration.plans.find? (naming.fold ·.name == naming.fold declared.name) =
        some kept ∧
      entry.methods.get? (naming.fold declared.name) = some kept := by
  have hskipped : naming.fold declared.name ∉
      (replay naming earlier).skippedNames registration := by
    rw [skippedNames, replay_naming, List.mem_map]
    rintro ⟨hidden, hhidden, heq⟩
    exact hshown hidden hhidden heq
  have hsome : (registration.plans.find?
      (naming.fold ·.name == naming.fold declared.name)).isSome := by
    rw [List.find?_isSome]
    exact ⟨declared, hdeclared, by simp⟩
  obtain ⟨kept, hkept⟩ := Option.isSome_iff_exists.1 hsome
  refine ⟨kept, hkept, ?_⟩
  rw [h.methods_eq, MethodTable.get?_ofPlans, if_neg hskipped, hkept]

theorem dispatchesTo {server : Server σ} (hnaming : server.options.naming = naming)
    (hregistry : server.registry = replay naming history)
    (h : Origin naming history entry earlier registration) {space method : String} {plan : Plan σ}
    (hspace : naming.fold space = entry.name)
    (hplan : (naming.fold method, plan) ∈ entry.methods.entries) {message : Message}
    (hid : message.Identified) (hmethod : message.method = space ++ "." ++ method) :
    server.DispatchesTo message plan := by
  have hwhole : separator ∉ space.toList := by
    have hwhole := h.obeys.whole
    rw [← hspace] at hwhole
    exact Naming.separator_notMem_of_fold hwhole
  have hsplit : message.method.toList = space.toList ++ separator :: method.toList := by
    rw [hmethod]
    simp [separator]
  rw [Server.dispatchesTo_iff_of_split hid hsplit hwhole, hnaming, hregistry]
  simp only [String.ofList_toList, hspace]
  exact ⟨entry, service?_replay_of_mem h.mem, h.get?_of_mem hplan⟩

theorem dispatchesTo_of_isAscii {server : Server σ} (hnaming : server.options.naming = naming)
    (hregistry : server.registry = replay naming history)
    (h : Origin naming history entry earlier registration)
    (hspace : Naming.IsAscii registration.name) {plan : Plan σ}
    (hname : Naming.IsAscii plan.name)
    (hplan : (naming.fold plan.name, plan) ∈ entry.methods.entries) {message : Message}
    (hid : message.Identified)
    (hmethod : message.method = entry.name ++ "." ++ naming.fold plan.name ∨
      message.method = registration.name ++ "." ++ plan.name) :
    server.DispatchesTo message plan := by
  rcases hmethod with hmethod | hmethod
  · have hspaces : naming.fold entry.name = entry.name := by
      rw [h.name_eq]
      exact Naming.fold_fold_of_isAscii _ hspace
    have hnames : naming.fold (naming.fold plan.name) = naming.fold plan.name :=
      Naming.fold_fold_of_isAscii _ hname
    exact h.dispatchesTo hnaming hregistry hspaces (by rwa [hnames]) hid hmethod
  · exact h.dispatchesTo hnaming hregistry h.name_eq.symm hplan hid hmethod

end Registry.Origin

namespace Enrolment

open Deployment Registry

/-- A call runs the method of the entry of its folded names, and no other. The name of a service and
that of a method, as declared, reach what the registry keeps under the method's folded name, and so
do the names that the registry advertises if all names are ASCII. -/
theorem spellings_reach_entries (enrolments : List (Enrolment σ)) (options : Options)
    (world : World σ) (log : List Event) :
    let fold := options.naming.fold
    let operations := history enrolments ⟨fresh options world, log⟩
    let server := (enrolAll enrolments ⟨fresh options world, log⟩).state.server
    (∀ message plan, server.DispatchesTo message plan →
      ∀ body, Message.parse body = .ok message →
        ∃ address, server.Targets body message address plan ∧
          ∀ visit before between method,
            Chain.Passes address.path 0 server.chain.entries
              (Action.enterGuard (visit.at address.path)) before (.returned (.ok ())) between →
            plan.bind message.params = .ok method →
            server.runs body visit =
              before ++ [.method address.space address.method between.context.method]) ∧
    (∀ body message visit space name seen, Message.parse body = .ok message →
      .method space name seen ∈ server.runs body visit →
      ∃ entry plan, server.address message = .ok ⟨space, name⟩ ∧
        (space, entry) ∈ server.registry.services ∧ (name, plan) ∈ entry.methods.entries ∧
        server.DispatchesTo message plan) ∧
    (∀ (message : Message) first second, message.Identified →
      message.method.toList = first ++ separator :: second → separator ∉ first →
      ∀ plan, server.DispatchesTo message plan ↔
        ∃ entry, (fold (String.ofList first), entry) ∈ server.registry.services ∧
          (fold (String.ofList second), plan) ∈ entry.methods.entries) ∧
    (∀ earlier registration after, earlier ++ [.add registration] <+: operations →
      (replay options.naming earlier).add registration = .ok (true, after) →
      ∀ declared ∈ registration.plans,
        (∀ hidden ∈ reservedNames ++ registration.excluded ++
          (replay options.naming earlier).globalExcludes, fold hidden ≠ fold declared.name) →
        ∃ entry kept, (fold registration.name, entry) ∈ server.registry.services ∧
          (fold declared.name, kept) ∈ entry.methods.entries ∧
          registration.plans.find? (fold ·.name == fold declared.name) = some kept ∧
          ∀ message : Message, message.Identified →
            message.method = registration.name ++ "." ++ declared.name →
            server.DispatchesTo message kept) ∧
    ((∀ registration, .add registration ∈ operations → Naming.IsAscii registration.name ∧
        ∀ plan ∈ registration.plans, Naming.IsAscii plan.name) →
      ∀ space ∈ server.registry.namespaces, ∃ entry registration,
        (space, entry) ∈ server.registry.services ∧
        .add registration ∈ operations ∧ space = fold registration.name ∧
        ∀ name ∈ entry.methods.names, ∃ plan ∈ registration.plans,
          (name, plan) ∈ entry.methods.entries ∧ name = fold plan.name ∧
          ∀ message : Message, message.Identified →
            message.method = space ++ "." ++ name ∨
              message.method = registration.name ++ "." ++ plan.name →
            server.DispatchesTo message plan) := by
  intro fold operations server
  have hregistry : server.registry = replay options.naming operations :=
    enrolAll_fresh_registry enrolments options world log
  have hnaming : server.options.naming = options.naming :=
    congrArg Options.naming (enrolAll_fresh_options enrolments options world log)
  refine ⟨fun message plan h body hparse => h.runs_of_bound hparse, ?_, ?_, ?_, ?_⟩
  · intro body message visit space name seen hparse hrun
    obtain ⟨entry, plan, haddress, hservice, hfound, hdispatches⟩ :=
      Server.dispatchesTo_of_run hparse hrun
    exact ⟨entry, plan, haddress, mem_of_service? hservice, MethodTable.mem_of_get? hfound,
      hdispatches⟩
  · intro message first second hid hmethod hfirst plan
    rw [Server.dispatchesTo_iff_of_split hid hmethod hfirst, hnaming, hregistry]
    constructor
    · rintro ⟨entry, hservice, hfound⟩
      exact ⟨entry, mem_of_service? hservice, MethodTable.mem_of_get? hfound⟩
    · rintro ⟨entry, hservice, hfound⟩
      obtain ⟨-, _, _, horigin⟩ := exists_origin _ _ _ entry hservice
      exact ⟨entry, service?_replay_of_mem hservice, horigin.get?_of_mem hfound⟩
  · intro earlier registration after hhappens hadd declared hdeclared hshown
    have horigin : Origin options.naming operations _ earlier registration :=
      ⟨hhappens, accepts_of_add hadd, rfl⟩
    obtain ⟨kept, hkept, hfound⟩ := horigin.exists_kept hdeclared hshown
    have hplan := MethodTable.mem_of_get? hfound
    have hmem := horigin.mem
    rw [horigin.name_eq, ← hregistry] at hmem
    exact ⟨_, kept, hmem, hplan, hkept, fun message =>
      horigin.dispatchesTo hnaming hregistry horigin.name_eq.symm hplan⟩
  · intro hascii space hspace
    obtain ⟨entry, hentry⟩ := mem_namespaces_iff.1 hspace
    rw [hregistry] at hentry
    obtain ⟨rfl, earlier, registration, horigin⟩ := exists_origin _ _ space entry hentry
    have hhappens : Operation.add registration ∈ operations := horigin.happens.subset (by simp)
    obtain ⟨hasciiSpace, hasciiPlans⟩ := hascii registration hhappens
    refine ⟨entry, registration, hregistry ▸ hentry, hhappens, horigin.name_eq, ?_⟩
    intro name hname
    obtain ⟨plan, hplan⟩ := MethodTable.mem_names_iff.1 hname
    obtain ⟨hdeclared, rfl⟩ := horigin.obeys.methods name plan hplan
    exact ⟨plan, hdeclared, hplan, rfl, fun message => horigin.dispatchesTo_of_isAscii hnaming
      hregistry hasciiSpace (hasciiPlans plan hdeclared) hplan⟩

def teaPot : Definition Unit where
  name := "TeaPot"
  plans := [.ofHandler "Pour.Hot" (.pure [] .nothing fun _ => ())]

def teaPotServer : Server Unit :=
  (enrolAll [.ofDefinition teaPot] ⟨fresh {} { host := () }, []⟩).state.server

def teaPotBody (spelling : String) : List UInt8 :=
  ("\x7b\"id\":1,\"method\":\"" ++ spelling ++ "\"\x7d").toUTF8.data.toList

theorem teaPot_spellings_reach_entries :
    (∀ message : Message, message.Identified →
      message.method = "TeaPot.Pour.Hot" ∨ message.method = "tea_pot.pour.hot" →
      teaPotServer.DispatchesTo message (.ofHandler "Pour.Hot" (.pure [] .nothing fun _ => ()))) ∧
    ∀ spelling ∈ ["TeaPot.Pour.Hot", "tea_pot.pour.hot"], ∀ visit,
      teaPotServer.runs (teaPotBody spelling) visit =
        [.method "tea_pot" "pour.hot" "tea_pot.pour.hot"] := by
  obtain ⟨-, -, hsplits, hdeclared, -⟩ :=
    spellings_reach_entries [.ofDefinition teaPot] {} { host := () } []
  obtain ⟨entry, kept, hentry, hkept, hfirst, hreaches⟩ := hdeclared [] teaPot.registration _
    List.prefix_rfl rfl _ List.mem_cons_self (by decide)
  obtain rfl : _ = kept := Option.some.inj ((List.find?_cons_of_pos (by simp)).symm.trans hfirst)
  have hdispatches : ∀ message : Message, message.Identified →
      message.method = "TeaPot.Pour.Hot" ∨ message.method = "tea_pot.pour.hot" →
      teaPotServer.DispatchesTo message
        (.ofHandler "Pour.Hot" (.pure [] .nothing fun _ => ())) := by
    rintro message hid (hmethod | hmethod)
    · exact hreaches message hid hmethod
    · have hsplit : message.method.toList =
          "tea_pot".toList ++ separator :: "pour.hot".toList := by
        rw [hmethod]
        decide
      have hspace : Naming.snake.fold (String.ofList "tea_pot".toList) =
          Naming.snake.fold "TeaPot" := by decide +kernel
      have hname : Naming.snake.fold (String.ofList "pour.hot".toList) =
          Naming.snake.fold "Pour.Hot" := by decide +kernel
      refine (hsplits message _ _ hid hsplit (by decide) _).2 ?_
      rw [hspace, hname]
      exact ⟨entry, hentry, hkept⟩
  have hnaming : teaPotServer.options.naming = .snake := by
    rw [teaPotServer, enrolAll_fresh_options]
  have hchain : teaPotServer.chain.entries = [] := by
    rw [teaPotServer, enrolAll_server]
    rfl
  refine ⟨hdispatches, fun spelling hspelling visit => ?_⟩
  rcases List.mem_cons.1 hspelling with rfl | hspelling
  · have hruns := @Server.runs_of_spelling _ _ _ (teaPotBody "TeaPot.Pour.Hot") "TeaPot" "Pour.Hot" _
      hchain (by decide) (by decide +kernel)
      (fun message hid hmethod => hdispatches message hid (.inl hmethod)) rfl visit
    rw [hnaming] at hruns
    rw [hruns]
    decide +kernel
  · rw [List.mem_singleton.1 hspelling]
    have hruns := @Server.runs_of_spelling _ _ _ (teaPotBody "tea_pot.pour.hot") "tea_pot" "pour.hot"
      _ hchain (by decide) (by decide +kernel)
      (fun message hid hmethod => hdispatches message hid (.inr hmethod)) rfl visit
    rw [hnaming] at hruns
    rw [hruns]
    decide +kernel

end Enrolment

end Switchboard
