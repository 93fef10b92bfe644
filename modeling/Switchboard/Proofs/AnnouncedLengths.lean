import Mathlib.Tactic
import Switchboard.Proofs.Gates
import Switchboard.Proofs.Order

/-!
# Announced lengths

A request may announce in digits how long it is. A number that is no machine word counts as none,
so that a request over the limit is refused for its size if the number is a word, or if the body
itself is too long, and in no other case.
-/

namespace Switchboard

structure IsNumeral (text : String) (n : Nat) : Prop where
  nonempty : text.toList ≠ []
  digits : ∀ c ∈ text.toList, c.isDigit
  value : decimal text.toList = n

theorem IsNumeral.isWord_iff {text : String} {n : Nat} (h : IsNumeral text n) (word : Nat) :
    IsWord text word ↔ word = n ∧ n ≤ maxWord := by
  constructor
  · rintro ⟨hfits, digits, hspelt | hspelt, -, -, hvalue⟩
    · have hword : word = n := by rw [← hvalue, ← hspelt, h.value]
      exact ⟨hword, hword ▸ hfits⟩
    · -- a plus sign is no digit
      have hplus : ('+').isDigit := h.digits '+' (hspelt ▸ List.mem_cons_self)
      exact absurd hplus (by decide)
  · rintro ⟨rfl, hfits⟩
    exact ⟨hfits, text.toList, .inl rfl, h.nonempty, h.digits, h.value⟩

theorem Headers.First.unique {headers : Headers} {name value other : String}
    (h : headers.First name value) (h' : headers.First name other) : value = other :=
  Option.some.inj ((get?_eq_some_iff.2 h).symm.trans (get?_eq_some_iff.2 h'))

namespace Request

def Announces (request : Request) (length : Nat) : Prop :=
  ∃ value, request.head.headers.First "content-length" value ∧ IsNumeral value length

/-- A request is over a limit, by its body or by the length that it announces. -/
def Exceeds (request : Request) (limit : Nat) : Prop :=
  (∃ length, request.Announces length ∧ limit < length) ∨ limit < request.body.length

theorem Announces.declares_iff {request : Request} {length : Nat} (h : request.Announces length)
    (declared : Nat) :
    request.head.Declares declared ↔ declared = if length ≤ maxWord then length else 0 := by
  obtain ⟨value, hfirst, hnumeral⟩ := h
  have hword : ∀ n, (∃ other, request.head.headers.First "content-length" other ∧
      IsWord other n) ↔ n = length ∧ length ≤ maxWord := by
    intro n
    rw [← hnumeral.isWord_iff n]
    exact ⟨fun ⟨other, hother, hword⟩ => hfirst.unique hother ▸ hword,
      fun hword => ⟨value, hfirst, hword⟩⟩
  rw [RequestHead.Declares, hword]
  split
  · rename_i hfits
    refine ⟨?_, fun hdeclared => .inl ⟨hdeclared, hfits⟩⟩
    rintro (⟨hdeclared, -⟩ | ⟨-, hnone⟩)
    · exact hdeclared
    · exact absurd ((hnumeral.isWord_iff length).2 ⟨rfl, hfits⟩) (hnone value hfirst length)
  · rename_i hlarge
    refine ⟨?_, fun hdeclared => .inr ⟨hdeclared, fun other hother n hn => ?_⟩⟩
    · rintro (⟨-, hfits⟩ | ⟨hdeclared, -⟩)
      · exact absurd hfits hlarge
      · exact hdeclared
    · exact hlarge ((hword n).1 ⟨other, hother, hn⟩).2

theorem Exceeds.not_fits_iff {request : Request} {limit : Nat} (h : request.Exceeds limit) :
    ¬request.Fits limit ↔ limit < request.body.length ∨
      ∃ length, request.Announces length ∧ limit < length ∧ length ≤ maxWord := by
  constructor
  · intro hfits
    by_cases hbody : limit < request.body.length
    · exact .inl hbody
    · obtain ⟨length, hlength, hover⟩ := h.resolve_right hbody
      refine .inr ⟨length, hlength, hover, ?_⟩
      by_contra hlarge
      refine hfits ⟨Nat.le_of_not_lt hbody, fun declared hdeclared => ?_⟩
      rw [hlength.declares_iff, if_neg hlarge] at hdeclared
      rw [hdeclared]
      exact Nat.zero_le limit
  · rintro (hbody | ⟨length, hlength, hover, hword⟩) hfits
    · exact absurd hfits.body (Nat.not_le.2 hbody)
    · have hdeclared : request.head.Declares length := by
        rw [hlength.declares_iff, if_pos hword]
      exact absurd (hfits.declared length hdeclared) (Nat.not_le.2 hover)

end Request

/-! ## Requests for which nothing runs -/

theorem Chain.Passes.after_eq_of_idle {path : String} {place : Nat}
    {entries : List (Middleware σ)} {visit after : Visit σ}
    {ending : Ending (Except ServiceError Unit)}
    (h : Passes path place entries visit [] ending after) : after = visit := by
  generalize hidle : ([] : List Run) = runs at h
  induction h with
  | done => rfl
  | skip _ _ ih => exact ih hidle
  | pass | stop | panic => cases hidle

namespace Server

theorem Calls.exchange_eq_of_idle {server : Server σ} {address : Address} {plan : Plan σ}
    {params : Option Json} {visit : Visit σ} {course : Course σ}
    (h : server.Calls address plan params visit course) (hidle : course.runs = []) :
    course.after.exchange = visit.exchange := by
  cases h with
  | stopped hpasses | stumbled hpasses | unbound hpasses =>
    subst hidle
    rw [hpasses.after_eq_of_idle]
    rfl
  | failed | crashed | completed => simp at hidle

theorem Takes.exchange_eq_of_idle {server : Server σ} {body : List UInt8} {visit : Visit σ}
    {course : Course σ} (h : server.Takes body visit course) (hidle : course.runs = []) :
    course.after.exchange = visit.exchange := by
  cases h with
  | unread | unidentified | unsplit | unknownSpace | unknownMethod => rfl
  | called _ hcalls => exact hcalls.exchange_eq_of_idle hidle

theorem status_ne_of_fits {server : Server σ} {request : Request} (hcall : ¬request.IsProbe)
    (hrunning : server.running = true) (hmethod : ¬request.IsBarred)
    (hfits : request.Fits server.options.maxBodyBytes) {world : World σ} {response : Response}
    (hgates : server.Gates (server.running = true) world request response)
    (hidle : server.servedRuns request world = []) : response.status ≠ 413 := by
  by_cases htyped : request.IsTyped server.options
  · obtain ⟨course, htakes, hruns, hresponse⟩ :=
      hgates.opened ⟨hcall, hrunning, hmethod, hfits, htyped⟩
    have hexchange := htakes.exchange_eq_of_idle (hruns.symm.trans hidle)
    have hstatus : response.status = 200 := by
      rw [hresponse, hexchange]
      rfl
    rw [hstatus]
    decide
  · rw [(hgates.untyped hcall hrunning hmethod hfits htyped).status]
    decide

/-- A running server refuses a request over its limit, and runs nothing for it, if and only if the
body is too long or the length that the request announces is a machine word. -/
theorem exceeding_refused_iff {server : Server σ} {request : Request}
    (hrunning : server.running = true) (hcall : ¬request.IsProbe) (hmethod : ¬request.IsBarred)
    (hexceeds : request.Exceeds server.options.maxBodyBytes) (logged : Logged (World σ)) :
    ∃ response after, server.serve request logged = (.returned response, after) ∧
      (response.status = 413 ∧ server.servedRuns request logged.state = [] ↔
        server.options.maxBodyBytes < request.body.length ∨
          ∃ length, request.Announces length ∧ server.options.maxBodyBytes < length ∧
            length ≤ maxWord) := by
  obtain ⟨response, after, hserve, hgates⟩ := server.serve_gates request logged
  refine ⟨response, after, hserve, ?_⟩
  rw [← hexceeds.not_fits_iff]
  constructor
  · rintro ⟨hstatus, hidle⟩ hfits
    exact status_ne_of_fits hcall hrunning hmethod hfits hgates hidle hstatus
  · intro hlarge
    obtain ⟨_, -, hrefused⟩ := hgates.large hcall hrunning hmethod hlarge
    exact ⟨hrefused.status, hgates.closed fun hpasses => hlarge hpasses.fits⟩

def announcing (length : String) : Request where
  head :=
    { headers := .ofList [("content-length", length), ("content-type", "application/json")] }
  body := quietBody

theorem announcing_announces {length : String} {n : Nat} (h : IsNumeral length n) :
    (announcing length).Announces n :=
  ⟨length, ⟨[], _, rfl, by simp⟩, h⟩

def bulky : Request :=
  announcing "00000000000000000005242881"

theorem bulky_is_refused :
    quiet.running = true ∧ ¬bulky.IsProbe ∧ ¬bulky.IsBarred ∧
      bulky.Exceeds quiet.options.maxBodyBytes ∧
      ∃ response after, quiet.serve bulky ⟨{ host := () }, []⟩ = (.returned response, after) ∧
        response.status = 413 ∧ quiet.servedRuns bulky { host := () } = [] := by
  have hrunning : quiet.running = true := rfl
  have hnumeral : IsNumeral "00000000000000000005242881" 5242881 :=
    ⟨by decide, List.all_eq_true.1 (by decide), by decide +kernel⟩
  have hannounces := announcing_announces hnumeral
  have hover : quiet.options.maxBodyBytes < 5242881 := by decide
  have hcall : ¬bulky.IsProbe := fun hprobe => absurd hprobe.method (by decide)
  have hmethod : ¬bulky.IsBarred := by
    unfold Request.IsBarred
    decide
  have hexceeds : bulky.Exceeds quiet.options.maxBodyBytes := .inl ⟨_, hannounces, hover⟩
  obtain ⟨response, after, hserve, hiff⟩ :=
    exceeding_refused_iff hrunning hcall hmethod hexceeds ⟨{ host := () }, []⟩
  obtain ⟨hstatus, hidle⟩ := hiff.2 (.inr ⟨_, hannounces, hover, by decide⟩)
  exact ⟨hrunning, hcall, hmethod, hexceeds, response, after, hserve, hstatus, hidle⟩

def endless : Request :=
  announcing "18446744073709551616"

/-- A call that announces more than a word is served as if it announced nothing. -/
theorem endless_length_is_served :
    quiet.running = true ∧ ¬endless.IsProbe ∧ ¬endless.IsBarred ∧
      endless.Exceeds quiet.options.maxBodyBytes ∧
      ∃ response after, quiet.serve endless ⟨{ host := () }, []⟩ = (.returned response, after) ∧
        response.status = 200 ∧
        quiet.servedRuns endless { host := () } =
          [.middleware 0 "tea.pour" "tea.pour", .method "tea" "pour" "tea.pour"] := by
  have hnumeral : IsNumeral "18446744073709551616" 18446744073709551616 :=
    ⟨by decide, List.all_eq_true.1 (by decide), by decide +kernel⟩
  have hover : quiet.options.maxBodyBytes < 18446744073709551616 := by decide
  refine ⟨rfl, fun hprobe => absurd hprobe.method (by decide), ?_,
    .inl ⟨_, announcing_announces hnumeral, hover⟩, ?_⟩
  · unfold Request.IsBarred
    decide
  · obtain ⟨response, after, hserve⟩ := quiet.serve_returns endless ⟨{ host := () }, []⟩
    have hcheck : (match (quiet.serve endless ⟨{ host := () }, []⟩).1 with
        | .returned response => response.status == 200
        | .panicked _ => false) = true := by decide +kernel
    rw [hserve, beq_iff_eq] at hcheck
    exact ⟨response, after, hserve, hcheck, by decide +kernel⟩

end Server

end Switchboard
