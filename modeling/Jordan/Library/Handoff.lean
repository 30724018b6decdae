import Mathlib.Data.Finset.Basic

/-! # Handing requests to workers

Members ask for service. A member is marked, and a worker is called unless a call is
waiting already. The worker that answers the call copies the marks and goes through its
copy: it reads what a member wants, serves it, and takes its mark away. A request is kept
while the member is marked with a call waiting, or while a worker is still to read it.

Only taking a mark away can lose a request, when the member has asked again in between
(`Handoff.Board.Kept.unmark_iff`), and leaving a copy unfinished
(`Handoff.Board.Kept.leave_iff`).
-/

namespace Handoff

/-- What the members and the workers share. `asked` are the members that have asked since
they were last read, and `unread` is what a worker has not read of its copy. -/
structure Board (Member Worker : Type*) where
  asked : Finset Member
  marked : Finset Member
  called : Option Worker
  unread : Worker → Finset Member

namespace Board

variable {Member Worker : Type*}

/-- Some worker is still to read the member. -/
def Copied (board : Board Member Worker) (member : Member) : Prop :=
  ∃ worker, member ∈ board.unread worker

/-- No request is lost. -/
def Kept (board : Board Member Worker) : Prop :=
  ∀ member ∈ board.asked,
    (member ∈ board.marked ∧ board.called.isSome = true) ∨ board.Copied member

theorem kept_of_asked_empty {board : Board Member Worker} (quiet : board.asked = ∅) :
    board.Kept := by
  intro member asked
  rw [quiet] at asked
  exact absurd asked (Finset.notMem_empty member)

/-- With no call waiting and every copy read, every request has been read. -/
theorem Kept.asked_eq_empty {board : Board Member Worker} (kept : board.Kept)
    (quiet : board.called = none) (done : ∀ worker, board.unread worker = ∅) :
    board.asked = ∅ := by
  refine Finset.eq_empty_of_forall_notMem fun member asked => ?_
  rcases kept member asked with ⟨_, called⟩ | ⟨worker, copied⟩
  · rw [quiet] at called
    cases called
  · rw [done] at copied
    exact Finset.notMem_empty member copied

variable [DecidableEq Member] [DecidableEq Worker]

/-- A member asks; the worker is called unless a call is waiting. -/
def ask (board : Board Member Worker) (member : Member) (worker : Worker) :
    Board Member Worker :=
  { board with
    asked := insert member board.asked
    marked := insert member board.marked
    called := board.called.or (some worker) }

/-- A worker answers the call and copies the marks. -/
def answer (board : Board Member Worker) (worker : Worker) : Board Member Worker :=
  { board with
    called := none
    unread := Function.update board.unread worker board.marked }

/-- A worker reads what a member of its copy wants. -/
def read (board : Board Member Worker) (worker : Worker) (member : Member) :
    Board Member Worker :=
  { board with
    asked := board.asked.erase member
    unread := Function.update board.unread worker ((board.unread worker).erase member) }

/-- The mark of a member is taken away. -/
def unmark (board : Board Member Worker) (member : Member) : Board Member Worker :=
  { board with marked := board.marked.erase member }

/-- A worker leaves the rest of its copy. -/
def leave (board : Board Member Worker) (worker : Worker) : Board Member Worker :=
  { board with unread := Function.update board.unread worker ∅ }

variable {board : Board Member Worker} {member : Member} {worker : Worker}

omit [DecidableEq Worker] in
theorem Kept.ask (kept : board.Kept) (member : Member) (worker : Worker) :
    (board.ask member worker).Kept := by
  have called : (board.called.or (some worker)).isSome = true := by
    cases board.called <;> rfl
  intro other asked
  rcases Finset.mem_insert.mp asked with rfl | before
  · exact .inl ⟨Finset.mem_insert_self .., called⟩
  · rcases kept other before with ⟨marked, _⟩ | copied
    · exact .inl ⟨Finset.mem_insert_of_mem marked, called⟩
    · exact .inr copied

omit [DecidableEq Member] in
/-- A worker that has nothing left to read may answer. -/
theorem Kept.answer (kept : board.Kept) (done : board.unread worker = ∅) :
    (board.answer worker).Kept := by
  intro other asked
  rcases kept other asked with ⟨marked, _⟩ | ⟨reader, copied⟩
  · refine .inr ⟨worker, ?_⟩
    simpa only [Board.answer, Function.update_self] using marked
  · have different : reader ≠ worker := by
      rintro rfl
      rw [done] at copied
      exact Finset.notMem_empty other copied
    refine .inr ⟨reader, ?_⟩
    simpa only [Board.answer, Function.update_of_ne different] using copied

/-- A worker that reads takes back only the request of the member it reads. -/
theorem Kept.read (kept : board.Kept) (worker : Worker) (member : Member) :
    (board.read worker member).Kept := by
  intro other asked
  obtain ⟨different, before⟩ := Finset.mem_erase.mp asked
  rcases kept other before with waiting | ⟨reader, copied⟩
  · exact .inl waiting
  · refine .inr ⟨reader, ?_⟩
    by_cases same : reader = worker
    · subst same
      simpa only [Board.read, Function.update_self] using
        Finset.mem_erase.mpr ⟨different, copied⟩
    · simpa only [Board.read, Function.update_of_ne same] using copied

omit [DecidableEq Worker] in
/-- **A mark may be taken away** when the member has not asked again, or when a worker is
still to read it. -/
theorem Kept.unmark_iff (kept : board.Kept) :
    (board.unmark member).Kept ↔ (member ∈ board.asked → board.Copied member) := by
  constructor
  · intro after asked
    rcases after member asked with ⟨marked, _⟩ | copied
    · exact absurd marked (Finset.notMem_erase member board.marked)
    · exact copied
  · intro read other asked
    by_cases same : other = member
    · subst same
      exact .inr (read asked)
    · rcases kept other asked with ⟨marked, called⟩ | copied
      · exact .inl ⟨Finset.mem_erase.mpr ⟨same, marked⟩, called⟩
      · exact .inr copied

/-- **A copy may be left unfinished** when each member of it that has asked is marked with
a call waiting, or is in the copy of another worker. -/
theorem Kept.leave_iff (kept : board.Kept) :
    (board.leave worker).Kept ↔
      ∀ member ∈ board.unread worker, member ∈ board.asked →
        (member ∈ board.marked ∧ board.called.isSome = true) ∨
          ∃ other, other ≠ worker ∧ member ∈ board.unread other := by
  have copied_iff (member : Member) : (board.leave worker).Copied member ↔
      ∃ other, other ≠ worker ∧ member ∈ board.unread other := by
    constructor
    · rintro ⟨other, copied⟩
      have different : other ≠ worker := by
        rintro rfl
        simp only [leave, Function.update_self, Finset.notMem_empty] at copied
      simp only [leave, Function.update_of_ne different] at copied
      exact ⟨other, different, copied⟩
    · rintro ⟨other, different, copied⟩
      refine ⟨other, ?_⟩
      simpa only [leave, Function.update_of_ne different] using copied
  constructor
  · intro after member _ asked
    exact (after member asked).imp_right (copied_iff member).mp
  · intro elsewhere member asked
    by_cases own : member ∈ board.unread worker
    · exact (elsewhere member own asked).imp_right (copied_iff member).mpr
    · refine (kept member asked).imp_right fun ⟨other, copied⟩ => ?_
      have different : other ≠ worker := by
        rintro rfl
        exact own copied
      exact (copied_iff member).mpr ⟨other, different, copied⟩

end Board

end Handoff
