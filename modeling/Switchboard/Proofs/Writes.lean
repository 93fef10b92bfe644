import Mathlib.Tactic
import Switchboard.Http.Exchange

/-!
# Writes to an exchange

The first write to an exchange is its response: later ones fail and change nothing. Headers can be
changed at any time, and a write that states a content type sets that header.
-/

namespace Switchboard

namespace Headers

def values (headers : Headers) (name : String) : List String :=
  (headers.entries.filter (·.1 == lowerName name)).map (·.2)

theorem values_erase_of_ne (headers : Headers) {name other : String}
    (h : lowerName other ≠ lowerName name) :
    (headers.erase other).values name = headers.values name := by
  unfold values erase
  rw [List.filter_filter]
  congr 1
  apply List.filter_congr
  intro entry _
  by_cases hname : entry.1 = lowerName name
  · have hother : entry.1 ≠ lowerName other := fun heq => h (heq.symm.trans hname)
    simp [hname, Ne.symm h]
  · simp [hname]

theorem values_set_self (headers : Headers) (name value : String) :
    (headers.set name value).values name = [value] := by
  have herased : (headers.erase name).entries.filter (·.1 == lowerName name) = [] := by
    unfold erase
    rw [List.filter_filter]
    simp
  unfold values set
  rw [List.filter_append, herased]
  simp

theorem values_set_of_ne (headers : Headers) {name other : String} (value : String)
    (h : lowerName other ≠ lowerName name) :
    (headers.set other value).values name = headers.values name := by
  rw [← headers.values_erase_of_ne h]
  unfold values set
  rw [List.filter_append]
  simp [h]

end Headers

structure Writing where
  status : Nat
  contentType : Option String
  body : List UInt8
deriving DecidableEq, Repr

/-- The content type that a writing states, if it can be sent. -/
def Writing.sentType? (writing : Writing) : Option String :=
  writing.contentType.filter Headers.isValue

/-- What can be done to an exchange. -/
inductive ExchangeEdit
  | write (status : Nat) (contentType : Option String) (body : List UInt8)
  | abortWithStatus (status : Nat)
  | abortWithBody (status : Nat) (contentType : String) (body : List UInt8)
  | setHeader (name value : String)
  | removeHeader (name : String)
  /-- Any other change of the headers. -/
  | editHeaders (edit : Headers → Headers)

namespace ExchangeEdit

def writing? : ExchangeEdit → Option Writing
  | write status contentType body => some ⟨status, contentType, body⟩
  | abortWithStatus status => some ⟨status, none, []⟩
  | abortWithBody status contentType body => some ⟨status, some contentType, body⟩
  | setHeader _ _ | removeHeader _ | editHeaders _ => none

/-- An edit does not touch a header, unless by the content type of what it writes. -/
def Spares (name : String) : ExchangeEdit → Prop
  | write _ _ _ | abortWithStatus _ | abortWithBody _ _ _ => True
  | setHeader other _ | removeHeader other => Headers.lowerName other ≠ Headers.lowerName name
  | editHeaders edit => ∀ headers, (edit headers).values name = headers.values name

def firstWriting? (edits : List ExchangeEdit) : Option Writing :=
  edits.findSome? writing?

theorem firstWriting?_append (first second : List ExchangeEdit) :
    firstWriting? (first ++ second) = (firstWriting? first).or (firstWriting? second) :=
  List.findSome?_append

end ExchangeEdit

namespace Exchange

open ExchangeEdit

def ofRequest (head : RequestHead) : Exchange where
  request := head

def apply (exchange : Exchange) : ExchangeEdit → Exchange
  | .write status contentType body => exchange.write status contentType body
  | .abortWithStatus status => exchange.abortWithStatus status
  | .abortWithBody status contentType body => exchange.abortWithBody status contentType body
  | .setHeader name value => exchange.setHeader name value
  | .removeHeader name => exchange.removeHeader name
  | .editHeaders edit => { exchange with headers := edit exchange.headers }

def applyAll (exchange : Exchange) (edits : List ExchangeEdit) : Exchange :=
  edits.foldl apply exchange

theorem applyAll_append (exchange : Exchange) (first second : List ExchangeEdit) :
    exchange.applyAll (first ++ second) = (exchange.applyAll first).applyAll second :=
  List.foldl_append

/-! ## One edit -/

section Apply

variable {exchange : Exchange} {edit : ExchangeEdit} {writing : Writing}

theorem tryWrite_of_isWritten (h : exchange.isWritten = true) (status : Nat)
    (contentType : Option String) (body : List UInt8) :
    exchange.tryWrite status contentType body = (false, exchange) := by
  rw [tryWrite, if_pos h]

theorem tryWrite_of_open (h : exchange.isWritten = false) (status : Nat)
    (contentType : Option String) (body : List UInt8) :
    (exchange.tryWrite status contentType body).1 = true := by
  rw [tryWrite, if_neg (by simp [h])]

theorem write_of_isWritten (h : exchange.isWritten = true) (status : Nat)
    (contentType : Option String) (body : List UInt8) :
    exchange.write status contentType body = exchange := by
  rw [write, tryWrite_of_isWritten h]

theorem write_of_open (h : exchange.isWritten = false) (writing : Writing) :
    exchange.write writing.status writing.contentType writing.body =
      { exchange with
        status := some writing.status
        headers := match writing.sentType? with
          | some type => exchange.headers.set "content-type" type
          | none => exchange.headers
        body := writing.body } := by
  rw [write, tryWrite, if_neg (by simp [h])]
  rfl

theorem apply_of_writing (h : edit.writing? = some writing) :
    exchange.apply edit = exchange.write writing.status writing.contentType writing.body := by
  cases edit with
  | write | abortWithStatus | abortWithBody =>
    cases h
    rfl
  | setHeader | removeHeader | editHeaders => cases h

theorem apply_of_isWritten (h : exchange.isWritten = true) (hedit : edit.writing?.isSome) :
    exchange.apply edit = exchange := by
  obtain ⟨writing, hwriting⟩ := Option.isSome_iff_exists.1 hedit
  rw [apply_of_writing hwriting, write_of_isWritten h]

end Apply

/-! ## Edits that do not write -/

/-- An exchange is as it was, but for headers that edits touch. -/
structure KeptBy (exchange : Exchange) (edits : List ExchangeEdit) (after : Exchange) : Prop where
  status : after.status = exchange.status
  body : after.body = exchange.body
  values : ∀ name, (∀ edit ∈ edits, edit.Spares name) →
    after.headers.values name = exchange.headers.values name

theorem KeptBy.isWritten_eq {exchange after : Exchange} {edits : List ExchangeEdit}
    (h : exchange.KeptBy edits after) : after.isWritten = exchange.isWritten := by
  rw [isWritten, isWritten, h.status]

private theorem keptBy_apply_of_no_writing {edit : ExchangeEdit} (h : edit.writing? = none)
    (exchange : Exchange) : exchange.KeptBy [edit] (exchange.apply edit) := by
  cases edit with
  | write | abortWithStatus | abortWithBody => cases h
  | setHeader other value =>
    refine ⟨rfl, rfl, fun name hspares => ?_⟩
    have hname := hspares _ List.mem_cons_self
    exact Headers.values_set_of_ne _ value hname
  | removeHeader other =>
    refine ⟨rfl, rfl, fun name hspares => ?_⟩
    have hname := hspares _ List.mem_cons_self
    exact Headers.values_erase_of_ne _ hname
  | editHeaders edit =>
    refine ⟨rfl, rfl, fun name hspares => ?_⟩
    have hvalues := hspares _ List.mem_cons_self
    exact hvalues exchange.headers

theorem keptBy_apply {exchange : Exchange} {edit : ExchangeEdit}
    (h : exchange.isWritten = true ∨ edit.writing? = none) :
    exchange.KeptBy [edit] (exchange.apply edit) := by
  cases hedit : edit.writing? with
  | none => exact keptBy_apply_of_no_writing hedit exchange
  | some writing =>
    have hwritten : exchange.isWritten = true := by simpa [hedit] using h
    rw [apply_of_isWritten hwritten (by rw [hedit]; rfl)]
    exact ⟨rfl, rfl, fun _ _ => rfl⟩

theorem keptBy_applyAll {exchange : Exchange} {edits : List ExchangeEdit}
    (h : exchange.isWritten = true ∨ ∀ edit ∈ edits, edit.writing? = none) :
    exchange.KeptBy edits (exchange.applyAll edits) := by
  induction edits generalizing exchange with
  | nil => exact ⟨rfl, rfl, fun _ _ => rfl⟩
  | cons edit edits ih =>
    have hfirst : exchange.KeptBy [edit] (exchange.apply edit) :=
      keptBy_apply (h.imp_right fun hnone => hnone edit List.mem_cons_self)
    have hrest : (exchange.apply edit).KeptBy edits ((exchange.apply edit).applyAll edits) := by
      apply ih
      rw [hfirst.isWritten_eq]
      exact h.imp_right fun hnone => (List.forall_mem_cons.1 hnone).2
    refine ⟨hrest.status.trans hfirst.status, hrest.body.trans hfirst.body, fun name hspares => ?_⟩
    obtain ⟨hspare, hspares⟩ := List.forall_mem_cons.1 hspares
    calc (exchange.applyAll (edit :: edits)).headers.values name
        = (exchange.apply edit).headers.values name := hrest.values name hspares
      _ = exchange.headers.values name := hfirst.values name (List.forall_mem_singleton.2 hspare)

/-! ## The first write -/

/-- What edits leave of an exchange that was not written is what the first that writes says. -/
structure SettledBy (exchange : Exchange) (edits : List ExchangeEdit) (after : Exchange) :
    Prop where
  status : after.status = (firstWriting? edits).map (·.status)
  body : after.body = ((firstWriting? edits).map (·.body)).getD exchange.body
  typed : (∀ edit ∈ edits, edit.Spares "content-type") →
    after.headers.values "content-type" =
      (((firstWriting? edits).bind (·.sentType?)).map ([·])).getD
        (exchange.headers.values "content-type")
  untyped : ∀ name, Headers.lowerName name ≠ Headers.lowerName "content-type" →
    (∀ edit ∈ edits, edit.Spares name) →
    after.headers.values name = exchange.headers.values name

theorem SettledBy.isWritten_eq {exchange after : Exchange} {edits : List ExchangeEdit}
    (h : exchange.SettledBy edits after) : after.isWritten = (firstWriting? edits).isSome := by
  rw [isWritten, h.status, Option.isSome_map]

private theorem settledBy_write {exchange : Exchange} (h : exchange.isWritten = false)
    (writing : Writing) :
    exchange.SettledBy [.write writing.status writing.contentType writing.body]
      (exchange.write writing.status writing.contentType writing.body) := by
  rw [write_of_open h]
  refine ⟨rfl, rfl, fun _ => ?_, fun name hname _ => ?_⟩
  · have hfirst : firstWriting? [.write writing.status writing.contentType writing.body] =
        some writing := rfl
    rw [hfirst, Option.bind_some]
    cases writing.sentType? with
    | none => rfl
    | some type => exact Headers.values_set_self _ _ _
  · cases writing.sentType? with
    | none => rfl
    | some type => exact Headers.values_set_of_ne _ type hname.symm

theorem settledBy_applyAll {exchange : Exchange} (h : exchange.isWritten = false)
    (edits : List ExchangeEdit) : exchange.SettledBy edits (exchange.applyAll edits) := by
  cases hfirst : firstWriting? edits with
  | none =>
    have hkept : exchange.KeptBy edits (exchange.applyAll edits) :=
      keptBy_applyAll (.inr (List.findSome?_eq_none_iff.1 hfirst))
    have hstatus : exchange.status = none := by simpa [isWritten] using h
    constructor
    case status => rw [hkept.status, hstatus, hfirst]; rfl
    case body => rw [hkept.body, hfirst]; rfl
    case typed =>
      intro hspares
      rw [hkept.values _ hspares, hfirst]
      rfl
    case untyped => exact fun name _ hspares => hkept.values name hspares
  | some writing =>
    -- what comes before the write and what comes after it leave status and body alone
    obtain ⟨ahead, edit, rest, rfl, hedit, hnone⟩ := List.findSome?_eq_some_iff.1 hfirst
    have hahead : exchange.KeptBy ahead (exchange.applyAll ahead) := keptBy_applyAll (.inr hnone)
    let written := (exchange.applyAll ahead).write writing.status writing.contentType writing.body
    have hopen : (exchange.applyAll ahead).isWritten = false := hahead.isWritten_eq.trans h
    have hwrite : (exchange.applyAll ahead).SettledBy
        [.write writing.status writing.contentType writing.body] written :=
      settledBy_write hopen writing
    have hwritten : written.isWritten = true := by
      rw [isWritten, hwrite.status]
      rfl
    have hrest : written.KeptBy rest (written.applyAll rest) := keptBy_applyAll (.inl hwritten)
    have hall : exchange.applyAll (ahead ++ edit :: rest) = written.applyAll rest := by
      rw [applyAll_append, applyAll, List.foldl_cons, apply_of_writing hedit]
      rfl
    rw [hall]
    constructor
    case status =>
      rw [hrest.status, hwrite.status, hfirst]
      rfl
    case body =>
      rw [hrest.body, hwrite.body, hfirst]
      rfl
    case typed =>
      intro hspares
      obtain ⟨hspares, hlater⟩ := List.forall_mem_append.1 hspares
      have hlater := (List.forall_mem_cons.1 hlater).2
      rw [hrest.values _ hlater, hwrite.typed (by simp [Spares]), hahead.values _ hspares, hfirst]
      rfl
    case untyped =>
      intro name hname hspares
      obtain ⟨hspares, hlater⟩ := List.forall_mem_append.1 hspares
      have hlater := (List.forall_mem_cons.1 hlater).2
      rw [hrest.values _ hlater, hwrite.untyped _ hname (by simp [Spares]), hahead.values _ hspares]

end Exchange

end Switchboard
