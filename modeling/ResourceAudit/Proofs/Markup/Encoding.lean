import ResourceAudit.Markup.Encoding
import ResourceAudit.Proofs.Collection.Attempt

/-!
# Documents that cannot be decoded

A document has a tree or a fault, unless it names an encoding that is looked up among the codecs
and whose codec is of no use: that is a failure, and the only one (`Source.parse_eq_error_iff`).
-/

namespace ResourceAudit.Markup

variable {codecs : Codecs}

/-- A name fails if it is looked up and its codec is of no use. -/
theorem Encoding.named_eq_error_iff {current : Encoding} {name : String} {f : Failure} :
    current.named codecs name = .error f ↔
      current.known? name = none ∧ (codecs name).resolve name = .error f := by
  unfold named
  cases hknown : current.known? name with
  | none =>
      dsimp only
      rw [Attempt.map_eq_error]
      exact (and_iff_right rfl).symm
  | some encoding =>
      dsimp only
      refine iff_of_false ?_ (fun h => nomatch h.1)
      split <;> exact nofun

namespace Source

/-- The document names an encoding that is looked up, and its codec is of no use. -/
def Undecodable (codecs : Codecs) (source : Source) (f : Failure) : Prop :=
  ∃ name, source.declared? = some name ∧ source.opening.1.known? name = none ∧
    (codecs name).resolve name = .error f

theorem decoderAfter_eq_error_iff {source : Source} {declaration : XmlDeclaration} {f : Failure} :
    source.decoderAfter codecs declaration = .error f ↔
      ∃ name, source.names? declaration = some name ∧ source.opening.1.known? name = none ∧
        (codecs name).resolve name = .error f := by
  unfold decoderAfter
  cases source.names? declaration with
  | none => exact iff_of_false nofun (by simp)
  | some name =>
      dsimp only
      rw [Encoding.named_eq_error_iff]
      simp

theorem parse_eq_error_iff {source : Source} {f : Failure} :
    source.parse codecs = .error f ↔ source.Undecodable codecs f := by
  unfold Undecodable declared? parse
  cases Encoding.isUndecided source.toBytes with
  | true => exact iff_of_false nofun (by simp)
  | false =>
      simp only [Bool.false_eq_true, if_false]
      cases XmlDeclaration.read (source.opening.1.decode source.opening.2).chars with
      | error fault => exact iff_of_false nofun (by simp)
      | ok opened =>
          obtain ⟨declaration, rest, _, _⟩ := opened
          cases declaration with
          | none => exact iff_of_false nofun (by simp)
          | some declaration =>
              dsimp only
              rw [Attempt.map_eq_error, decoderAfter_eq_error_iff]

end Source

end ResourceAudit.Markup
