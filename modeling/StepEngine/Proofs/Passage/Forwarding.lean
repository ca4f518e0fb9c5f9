import StepEngine.Proofs.Passage

/-!
# Forwarding: the outputs of a record at the sink

The outputs of a record are offered to the sink one after the other, up to the first that it refuses (`Forwards`). The offers for a record
end with its last output or with a refusal, so nothing can be added to them: from the outputs of all records and from all offers together
it can be told which offers were made for which record (`Forwards.flatMap_inj`).
-/

namespace StepEngine

/-- The outputs were offered to a sink in this order, up to the first that it refused. -/
inductive Forwards : List Json → List Offer → Prop where
  | done : Forwards [] []
  | taken {record : Json} {rest : List Json} {offers : List Offer} (later : Forwards rest offers) :
      Forwards (record :: rest) (⟨record, .ok ()⟩ :: offers)
  | refused {record : Json} {rest : List Json} (e : SinkError) : Forwards (record :: rest) [⟨record, .error e⟩]

/-- The error of a sink that refused a record. -/
def Offer.error? (offer : Offer) : Option SinkError :=
  match offer.answer with
  | .ok () => none
  | .error e => some e

/-- The first refusal among some offers. -/
def refusal? (offers : List Offer) : Option SinkError := offers.findSome? Offer.error?

/-- The answer of a stage that made some offers. -/
def flushed (stage : String) (offers : List Offer) : Except ProcessorError Unit :=
  match refusal? offers with
  | none => .ok ()
  | some e => .error (.sinkRejected stage e)

namespace Forwards

variable {outputs : List Json} {offers others : List Offer}

/-- There is no refusal among offers if and only if all of them were taken. -/
theorem refusal?_eq_none_iff (offers : List Offer) : refusal? offers = none ↔ ∀ offer ∈ offers, offer.isTaken = true := by
  have htaken (offer : Offer) : offer.error? = none ↔ offer.isTaken = true := by
    obtain ⟨record, answer⟩ := offer
    cases answer with
    | ok => exact ⟨fun _ => rfl, fun _ => rfl⟩
    | error e => exact ⟨nofun, nofun⟩
  rw [refusal?, List.findSome?_eq_none_iff]
  exact forall₂_congr fun offer _ => htaken offer

/-- When the sink took everything it was offered, it was offered all outputs. -/
theorem map_record (h : Forwards outputs offers) (htaken : ∀ offer ∈ offers, offer.isTaken = true) :
    offers.map (·.record) = outputs := by
  induction h with
  | done => rfl
  | taken later ih => rw [List.map_cons, ih fun offer hm => htaken offer (List.mem_cons_of_mem _ hm)]
  | refused e => exact absurd (htaken _ List.mem_cons_self) nofun

/-- The offers for a record cannot go on: two lists of offers that begin with offers for the same outputs begin with the same ones. -/
theorem append_inj {rest rest' : List Offer} (h : Forwards outputs offers) (h' : Forwards outputs others)
    (heq : offers ++ rest = others ++ rest') : offers = others ∧ rest = rest' := by
  induction h generalizing others with
  | done =>
    cases h'
    exact ⟨rfl, heq⟩
  | taken later ih =>
    cases h' with
    | taken later' =>
      obtain ⟨hoffers, hrest⟩ := ih later' (List.cons.inj heq).2
      exact ⟨congrArg _ hoffers, hrest⟩
    | refused e => cases heq
  | refused e =>
    cases h' with
    | taken later' => cases heq
    | refused e' =>
      cases heq
      exact ⟨rfl, rfl⟩

/-- The offers for many records, one after the other, are those for each of them. -/
theorem flatMap_inj {due : Nat → List Json} {segment segment' : Nat → List Offer} {indices : List Nat}
    (h : ∀ i ∈ indices, Forwards (due i) (segment i)) (h' : ∀ i ∈ indices, Forwards (due i) (segment' i))
    (heq : indices.flatMap segment = indices.flatMap segment') : ∀ i ∈ indices, segment i = segment' i := by
  induction indices with
  | nil => exact nofun
  | cons index rest ih =>
    obtain ⟨hfirst, hrest⟩ := List.forall_mem_cons.1 h
    obtain ⟨hfirst', hrest'⟩ := List.forall_mem_cons.1 h'
    obtain ⟨hsame, hothers⟩ := append_inj hfirst hfirst' heq
    exact List.forall_mem_cons.2 ⟨hsame, ih hrest hrest' hothers⟩

end Forwards

/-- Offers seen after a passage. -/
def Passage.offering (p : Passage) (offers : List Offer) : Passage := { p with offers := p.offers ++ offers }

/-- No offers leave a passage as it was. -/
theorem Passage.offering_nil (p : Passage) : p.offering [] = p := by rw [offering, List.append_nil]

/-- Offers after offers. -/
theorem Passage.offering_offering (p : Passage) (offers later : List Offer) :
    (p.offering offers).offering later = p.offering (offers ++ later) := by
  rw [offering, offering, offering, List.append_assoc]

/-- Outputs are forwarded up to the first refusal, and nothing else is seen of it. -/
theorem Stage.shows_flush {m : Type → Type} [Monad m] [LawfulMonad m] (stage : Stage m) (outputs : List Json) (p : Passage) :
    Shows (stage.watched.flush outputs) p fun answer q =>
      ∃ offers, Forwards outputs offers ∧ q = p.offering offers ∧ answer = flushed stage.name offers := by
  induction outputs generalizing p with
  | nil => exact Shows.pure ⟨[], .done, p.offering_nil.symm, rfl⟩
  | cons output rest ih =>
    refine Shows.noting_bind fun answer => ?_
    cases answer with
    | error e => exact Shows.pure ⟨_, .refused e, rfl, rfl⟩
    | ok =>
      refine Shows.imp (ih (p.offering [⟨output, .ok ()⟩])) ?_
      rintro answer q ⟨offers, hforwards, rfl, rfl⟩
      exact ⟨_, .taken hforwards, p.offering_offering _ _, rfl⟩

end StepEngine
