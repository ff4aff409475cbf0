import MarketQuery.Service

namespace MarketQuery

namespace Dialogue

variable {α β : Type}

def nextReply (replies : List Reply) : Reply := replies.headD (.failure silence)

theorem run_ask (q : Sql.Batch) (next : Reply → Dialogue α) (replies : List Reply) :
    (ask q next).run replies =
      let t := (next (nextReply replies)).run replies.tail
      { t with questions := q :: t.questions } := rfl

/-- The second part of a dialogue runs with the replies that the first has left. -/
theorem run_bind (x : Dialogue α) (k : α → Dialogue β) (replies : List Reply) :
    (x >>= k).run replies =
      let t := x.run replies
      let u := (k t.result).run t.unused
      { u with questions := t.questions ++ u.questions } := by
  induction x generalizing replies with
  | done a => rfl
  | ask q next ih =>
    change (ask q fun r => next r >>= k).run replies = _
    simp only [run_ask, ih, List.cons_append]

end Dialogue

namespace Storage

theorem run_fetch {α : Type} (q : Sql.Batch) (read : Reply → Except StorageError α)
    (replies : List Reply) :
    (fetch (some q) read).run replies =
      ⟨read (Dialogue.nextReply replies), [q], replies.tail⟩ := rfl

end Storage

namespace Service

variable {α : Type} {fetch : Sql.Statement → Dialogue (Except StorageError α)}

/-- A statement that could be made is sent, and its reply becomes the answer. -/
theorem run_answer_ok (s : Sql.Statement) (replies : List Reply) :
    (answer (.ok s) fetch).run replies =
      let t := (fetch s).run replies
      ⟨t.result.mapError .ofStorage, t.questions, t.unused⟩ := by
  rw [answer, Dialogue.run_bind]
  exact congrArg (fun qs => Dialogue.Transcript.mk _ qs _) (List.append_nil _)

end Service

end MarketQuery
