/-
This file proves that the message of an error without a cause says which error it is. Three kinds of
messages differ in their first letter. The two that name a lock quote the name, so that no name can
end its quote and go on as the other message would. Whatever the name, the message is one line and
has no control characters.
-/

import Leasehold.LockError
import Leasehold.Proofs.Quotations
import Leasehold.Proofs.SpanTexts

namespace Leasehold

namespace LockError

/-! ### Messages of errors without a cause -/

theorem message_invalidTtl (lease : Duration) :
    (invalidTtl lease).message = "invalid ttl " ++ lease.text ++ ": must be at least 1ms" := rfl

theorem message_heldByOtherClient (name : String) :
    (heldByOtherClient name).message = "lock " ++ quoted name ++ " is held by another client" := rfl

theorem message_notOwned (name : String) :
    (notOwned name).message = "lock " ++ quoted name ++ " is not owned by this client" := rfl

theorem message_notConnected : notConnected.message = "client is not connected" := rfl

/-! ### Telling messages apart -/

/-- The letter that the message of an error without a cause begins with. -/
def initial : LockError → Char
  | invalidTtl _ => 'i'
  | heldByOtherClient _ | notOwned _ => 'l'
  | _ => 'c'

theorem head?_append {opening : String} {first : Char} (begun : opening.toList.head? = some first)
    (rest : String) : (opening ++ rest).toList.head? = some first := by
  rw [String.toList_append, List.head?_append, begun]
  rfl

theorem head?_message {error : LockError} (causeless : error.cause? = none) :
    error.message.toList.head? = some error.initial := by
  cases error with
  | invalidTtl lease =>
    rw [message_invalidTtl]
    exact head?_append (head?_append rfl _) _
  | heldByOtherClient name =>
    rw [message_heldByOtherClient]
    exact head?_append (head?_append rfl _) _
  | notOwned name =>
    rw [message_notOwned]
    exact head?_append (head?_append rfl _) _
  | notConnected =>
    rw [message_notConnected]
    rfl
  | connection cause => cases causeless
  | store cause => cases causeless

theorem initial_eq_of_message_eq {first second : LockError} (one : first.cause? = none)
    (other : second.cause? = none) (same : first.message = second.message) :
    first.initial = second.initial := by
  have heads := congrArg (fun text => text.toList.head?) same
  simpa only [head?_message one, head?_message other, Option.some.injEq] using heads

/-- A quote in a message says what is quoted, and what the message says of it. -/
theorem quoted_sentence_inj {name other tail rest : String}
    (same : "lock " ++ quoted name ++ tail = "lock " ++ quoted other ++ rest) :
    name = other ∧ tail = rest := by
  rw [String.append_assoc, String.append_assoc] at same
  exact quoted_append_inj ((String.append_right_inj _).mp same)

theorem lease_eq_of_message_eq {lease other : Duration}
    (same : (invalidTtl lease).message = (invalidTtl other).message) : lease = other := by
  rw [message_invalidTtl, message_invalidTtl] at same
  exact Duration.text_inj ((String.append_right_inj _).mp ((String.append_left_inj _).mp same))

/-- Errors without a cause have different messages. -/
theorem eq_of_message_eq {first second : LockError} (one : first.cause? = none)
    (other : second.cause? = none) (same : first.message = second.message) : first = second := by
  have initials := initial_eq_of_message_eq one other same
  -- all pairs but those that both name a lock, and those of one kind, differ in the first letter
  cases first <;> cases second <;> simp only [initial, cause?, Char.reduceEq, reduceCtorEq]
    at one other initials
  case invalidTtl.invalidTtl => rw [lease_eq_of_message_eq same]
  case heldByOtherClient.heldByOtherClient =>
    rw [message_heldByOtherClient, message_heldByOtherClient] at same
    rw [(quoted_sentence_inj same).1]
  case heldByOtherClient.notOwned =>
    rw [message_heldByOtherClient, message_notOwned] at same
    exact absurd (quoted_sentence_inj same).2 (by decide)
  case notOwned.heldByOtherClient =>
    rw [message_heldByOtherClient, message_notOwned] at same
    exact absurd (quoted_sentence_inj same).2 (by decide)
  case notOwned.notOwned =>
    rw [message_notOwned, message_notOwned] at same
    rw [(quoted_sentence_inj same).1]
  case notConnected.notConnected => rfl

/-! ### Messages on one line -/

theorem staysInLine_of_isNumeric {char : Char} (numeric : isNumeric char = true) :
    StaysInLine char := by
  rcases Bool.or_eq_true_iff.mp numeric with digit | point
  · have range : 0x30 ≤ char.toNat ∧ char.toNat ≤ 0x39 := Char.isDigit_iff_toNat.mp digit
    simp only [StaysInLine, IsControl, IsLineBreak, List.mem_cons, List.not_mem_nil, or_false]
    omega
  · rw [eq_of_beq point]
    decide

theorem staysInLine_duration_text (duration : Duration) :
    ∀ char ∈ duration.text.toList, StaysInLine char := by
  have names : ∀ unit ∈ Duration.units,
      (unit.name.toList.all fun char => decide (StaysInLine char)) = true := by decide
  intro char member
  rw [Duration.text, String.toList_append, String.toList_ofList] at member
  rcases List.mem_append.mp member with number | unit
  · exact staysInLine_of_isNumeric (isNumeric_of_mem_unitsText number)
  · exact staysInLine_of_all (names _ duration.scale_mem_units) char unit

/-- A text within two others stays on its line if all three do. -/
theorem staysInLine_within {front text back : String}
    (before : ∀ char ∈ front.toList, StaysInLine char)
    (within : ∀ char ∈ text.toList, StaysInLine char)
    (after : ∀ char ∈ back.toList, StaysInLine char) :
    ∀ char ∈ (front ++ text ++ back).toList, StaysInLine char := by
  intro char member
  rw [String.toList_append, String.toList_append, List.append_assoc] at member
  rcases List.mem_append.mp member with opening | rest
  · exact before char opening
  · rcases List.mem_append.mp rest with inner | closing
    · exact within char inner
    · exact after char closing

theorem staysInLine_message {error : LockError} (causeless : error.cause? = none) :
    ∀ char ∈ error.message.toList, StaysInLine char := by
  cases error with
  | invalidTtl lease =>
    rw [message_invalidTtl]
    exact staysInLine_within (staysInLine_of_all (by decide))
      (staysInLine_duration_text lease) (staysInLine_of_all (by decide))
  | heldByOtherClient name =>
    rw [message_heldByOtherClient]
    exact staysInLine_within (staysInLine_of_all (by decide)) (staysInLine_quoted name)
      (staysInLine_of_all (by decide))
  | notOwned name =>
    rw [message_notOwned]
    exact staysInLine_within (staysInLine_of_all (by decide)) (staysInLine_quoted name)
      (staysInLine_of_all (by decide))
  | notConnected =>
    rw [message_notConnected]
    exact staysInLine_of_all (by decide)
  | connection cause => cases causeless
  | store cause => cases causeless

/-- The message of an error without a cause belongs to no other such error, and neither a control
character nor a line break stands in it. -/
theorem messages_identify {first second : LockError} (one : first.cause? = none)
    (other : second.cause? = none) :
    (first.message = second.message ↔ first = second) ∧
      ∀ char ∈ first.message.toList, ¬ IsControl char ∧ ¬ IsLineBreak char :=
  ⟨⟨eq_of_message_eq one other, congrArg LockError.message⟩, staysInLine_message one⟩

/-- A name that goes on as the message for another error does, with a line break before it. -/
theorem messages_identify_imitation :
    (heldByOtherClient "a\n\" is not owned by this client").cause? = none ∧
      (notOwned "a").cause? = none ∧
      ((heldByOtherClient "a\n\" is not owned by this client").message = (notOwned "a").message ↔
        heldByOtherClient "a\n\" is not owned by this client" = notOwned "a") ∧
      ∀ char ∈ (heldByOtherClient "a\n\" is not owned by this client").message.toList,
        ¬ IsControl char ∧ ¬ IsLineBreak char :=
  ⟨rfl, rfl, messages_identify rfl rfl⟩

end LockError

end Leasehold
