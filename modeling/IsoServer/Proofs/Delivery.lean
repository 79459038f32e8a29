-- Responses on their way to the client. A response keeps its status and its fields, says its
-- length if that is known, and loses its body if only the head was asked for.
import Mathlib
import IsoServer.Proofs.Framing
import IsoServer.Proofs.Isolation

namespace IsoServer

/-! ## Fields -/

theorem Headers.contains_iff {name : String} {headers : Headers} :
    headers.contains name = true ↔ headers.values name ≠ [] := by
  unfold Headers.contains Headers.values
  rw [List.any_eq_true, ne_eq, List.map_eq_nil_iff, List.filter_eq_nil_iff]
  simp

theorem values_isolate {r : Response} {name : String} (hembedder : name ≠ embedderPolicy)
    (hopener : name ≠ openerPolicy) : (isolate r).headers.values name = r.headers.values name := by
  unfold isolate
  rw [Headers.values_set_of_ne _ _ hembedder, Headers.values_set_of_ne _ _ hopener]

/-- The lengths that a response says when it is delivered: those that it has, or else the number
of its bytes if that is known. -/
def announced (r : Response) : List Bytes :=
  if r.headers.values "content-length" ≠ [] then r.headers.values "content-length"
  else if r.body.sized then [Bytes.decimal r.body.content.length]
  else []

/-- Every response but one that opens a tunnel. -/
theorem deliver_eq {method : Method} {r : Response}
    (h : ¬ (method = .connect ∧ r.isSuccess = true)) :
    deliver method r =
      { r with
        headers := if r.body.sized && !r.headers.contains "content-length" then
            r.headers.add "content-length" (Bytes.decimal r.body.content.length)
          else r.headers
        body := if method = .head then {} else r.body } := by
  have hclosed : ¬ (method == .connect && r.isSuccess) = true := by simpa using h
  unfold deliver
  rw [if_neg hclosed]
  simp

theorem values_deliver_length {method : Method} {r : Response}
    (h : ¬ (method = .connect ∧ r.isSuccess = true)) :
    (deliver method r).headers.values "content-length" = announced r := by
  rw [deliver_eq h]
  unfold announced
  by_cases hlength : r.headers.values "content-length" = []
  · have hmissing : r.headers.contains "content-length" = false := by
      rw [← Bool.not_eq_true, Headers.contains_iff]
      simpa using hlength
    cases hsized : r.body.sized with
    | true =>
      simp only [hmissing, Bool.not_false, Bool.and_self, if_true, Headers.add]
      rw [Headers.values_append, hlength]
      rfl
    | false => simp [hlength]
  · have hpresent := Headers.contains_iff.mpr hlength
    simp [hpresent, hlength]

theorem values_deliver_of_ne {method : Method} {r : Response} {name : String}
    (h : ¬ (method = .connect ∧ r.isSuccess = true)) (hname : name ≠ "content-length") :
    (deliver method r).headers.values name = r.headers.values name := by
  rw [deliver_eq h]
  dsimp only
  split
  · have hnone : Headers.values name
        [("content-length", Bytes.decimal r.body.content.length)] = [] := by
      simp [Headers.values, hname.symm]
    unfold Headers.add
    rw [Headers.values_append, hnone, List.append_nil]
  · rfl

/-! ## What the client gets -/

/-- What the client gets of a response: the same status, the body unless only the head was asked
for, the length if it is known, the two policies, and all other fields as they were. -/
structure Delivered (method : Method) (plain response : Response) : Prop where
  status : response.status = plain.status
  body : response.body = if method = .head then {} else plain.body
  lengths : response.headers.values "content-length" = announced plain
  isolated : Isolated response
  others : ∀ name, name ≠ "content-length" → name ≠ embedderPolicy → name ≠ openerPolicy →
    response.headers.values name = plain.headers.values name

theorem delivered_isolate {method : Method} {plain : Response} (hlower : plain.headers.AllLower)
    (h : ¬ (method = .connect ∧ plain.isSuccess = true)) :
    Delivered method plain (isolate (deliver method plain)) where
  status := by rw [deliver_eq h]; rfl
  body := by rw [deliver_eq h]; rfl
  lengths := by rw [values_isolate (by decide) (by decide), values_deliver_length h]
  isolated := isolated_isolate (allLower_deliver method hlower)
  others name hlength hembedder hopener := by
    rw [values_isolate hembedder hopener, values_deliver_of_ne h hlength]

end IsoServer
