import Courier.Proofs.Session.Sides
import Courier.Proofs.Utf8.Lossy

/-!
# Texts on their way out and in

A text that is sent goes out as its encoding, and what comes in as those bytes is the text again.
Bytes that are no encoding have a text as well, with U+FFFD where they are broken.
-/

namespace Courier

/-- A request that is accepted stands in the channel. -/
theorem Client.joined_of_answers {request : Request} {l l' : Link}
    (accepted : Client.answers .caller request l = (.ok (), l')) (other : request ≠ .disconnect) :
    l' = l.joined .caller [request] := by
  have sent : l.request? .caller request = l.send? request := by cases request <;> rfl
  rw [answers, sent] at accepted
  cases answer : l.send? request with
  | none =>
    rw [answer] at accepted
    cases accepted
  | some given =>
    rw [answer, Option.getD_some] at accepted
    subst accepted
    rcases Link.answer_of_send? answer with joined | refused
    · exact (Prod.mk.inj joined).2
    · cases refused

namespace Communicator

theorem queued_of_sendTo {c : Communicator} {s topic : String} {guarantee : Guarantee}
    (sent : (c.sendTo s topic guarantee).1 = .ok ()) :
    (c.sendTo s topic guarantee).2.client.manager.link =
      c.client.manager.link.joined .caller [.publish topic (Utf8.encode s) guarantee false] := by
  simp only [sendTo, Client.publish] at sent ⊢
  cases checked : checkTopic topic with
  | error fault =>
    rw [checked] at sent
    cases sent
  | ok =>
    rw [checked] at sent
    dsimp only at sent ⊢
    split at sent
    · rename_i accepted
      refine Client.joined_of_answers (Prod.ext accepted rfl) fun same => ?_
      cases same
    · cases sent

end Communicator

/-- A text that is sent comes back from its bytes as it was. Any bytes have one text, the one that
`Utf8.Decodes` tells: with whole texts before them or after them, it has these before it or after
it, and it is the text of its own encoding. -/
theorem texts_arrive :
    (∀ (c : Communicator) (s topic : String) (guarantee : Guarantee),
      (c.sendTo s topic guarantee).1 = .ok () → ∃ bytes,
        (c.sendTo s topic guarantee).2.client.manager.link.queued =
          c.client.manager.link.queued ++ [.publish topic bytes guarantee false] ∧
        ∀ (l : Loop) (name : List UInt8) (retain : Bool), ∃ m,
          l.onEvent (.incoming (.publish name bytes retain)) = (l, .dispatch m) ∧ m.text = s) ∧
    ∀ m : Message,
      (∀ s, m.payload = Utf8.encode s → m.text = s) ∧
      (∀ cs, m.text = String.ofList cs ↔ Utf8.Decodes m.payload cs) ∧
      (∀ s, Message.text { m with payload := Utf8.encode s ++ m.payload } = s ++ m.text) ∧
      (∀ s, Message.text { m with payload := m.payload ++ Utf8.encode s } = m.text ++ s) ∧
      Message.text { m with payload := Utf8.encode m.text } = m.text := by
  refine ⟨fun c s topic guarantee sent => ?_, fun m => ⟨fun s whole => ?_, fun cs => ?_,
    fun s => ?_, fun s => ?_, ?_⟩⟩
  · have queued := congrArg Link.queued (Communicator.queued_of_sendTo sent)
    exact ⟨Utf8.encode s, queued, fun l name retain => ⟨_, rfl, Utf8.lossy_encode s⟩⟩
  · rw [Message.text, whole, Utf8.lossy_encode]
  · exact Utf8.lossy_eq_iff m.payload cs
  · exact Utf8.lossy_encode_append s m.payload
  · exact Utf8.lossy_append_encode m.payload s
  · exact Utf8.lossy_encode m.text

/-- Characters of two, three and four bytes, and the first half of one before a letter. -/
theorem texts_arrive_broken :
    (Communicator.unasked.sendTo "é€😀" "a" .exactlyOnce).1 = .ok () ∧
    (∃ bytes, (Communicator.unasked.sendTo "é€😀" "a" .exactlyOnce).2.client.manager.link.queued =
        [.publish "a" bytes .exactlyOnce false] ∧
      Utf8.lossy bytes = "é€😀") ∧
    Message.text ⟨"a", [0xF0, 0x9F, 0x41]⟩ = "\uFFFDA" ∧
    Utf8.Decodes [0xF0, 0x9F, 0x41] ['\uFFFD', 'A'] := by
  have sent : (Communicator.unasked.sendTo "é€😀" "a" .exactlyOnce).1 = .ok () := rfl
  obtain ⟨bytes, queued, arrives⟩ := texts_arrive.1 _ _ _ _ sent
  obtain ⟨m, dispatched, text⟩ := arrives (.fresh .usual .origin) [] false
  have read : Message.text ⟨"a", [0xF0, 0x9F, 0x41]⟩ = "\uFFFDA" := by decide
  cases dispatched
  exact ⟨sent, ⟨bytes, queued, text⟩, read, ((texts_arrive.2 _).2.1 _).mp read⟩

end Courier
