import MindMap.Proofs.Session.Runs

/-!
# The history as a timeline

The history of a session is a line of documents with a cursor. Undoing and redoing move the cursor,
a change of the document cuts the line off behind the cursor and adds one document, and nothing else
touches it. The oldest document is dropped when the cursor could not move on otherwise.

Only changes look at the limit. That redoing cannot go beyond it needs the past and the future to be
bounded together; a change leaves no future, and the other moves keep their sum.
-/

namespace MindMap

/-- A line of documents and the index of the current one. -/
structure Timeline where
  entries : List Forest
  cursor : Nat

namespace Timeline

/-- What a move makes of a timeline. -/
inductive Step : HistoryMove → Timeline → Timeline → Prop where
  | stay (timeline : Timeline) : Step .stay timeline timeline
  | back (entries : List Forest) (cursor : Nat) :
      Step .back ⟨entries, cursor + 1⟩ ⟨entries, cursor⟩
  | forward (entries : List Forest) (cursor : Nat) (later : cursor + 1 < entries.length) :
      Step .forward ⟨entries, cursor⟩ ⟨entries, cursor + 1⟩
  | record (timeline : Timeline) (document : Forest) (room : timeline.cursor < historyLimit) :
      Step .record timeline
        ⟨timeline.entries.take (timeline.cursor + 1) ++ [document], timeline.cursor + 1⟩
  /-- At the limit the oldest document goes. -/
  | recordFull (timeline : Timeline) (document : Forest) (full : timeline.cursor = historyLimit) :
      Step .record timeline
        ⟨(timeline.entries.take (timeline.cursor + 1)).tail ++ [document], timeline.cursor⟩

/-- The timelines that moves lead to. -/
inductive Leads (start : Timeline) : Timeline → Prop where
  | refl : Leads start start
  | step {middle after : Timeline} {move : HistoryMove} (prior : Leads start middle)
      (step : Step move middle after) : Leads start after

end Timeline

namespace Session

variable {session : Session}

/-- The documents of a session from the oldest to the one undone first, and where it stands in them.
-/
def timeline (session : Session) : Timeline where
  entries := session.past.reverse ++ session.document :: session.future
  cursor := session.past.length

theorem timeline_of_history {before after : Session} (same : after.history = before.history) :
    after.timeline = before.timeline := by
  simp only [history, Prod.mk.injEq] at same
  simp [timeline, same]

/-! ### The limit -/

/-- Past and future together stay within the limit. -/
def WithinLimit (session : Session) : Prop :=
  session.past.length + session.future.length ≤ historyLimit

theorem remember_of_room {document : Forest} {past : List Forest}
    (room : past.length < historyLimit) : remember document past = document :: past := by
  have notLonger : ¬ (document :: past).length > historyLimit := by
    rw [List.length_cons]
    omega
  exact if_neg notLonger

theorem remember_of_full {document : Forest} {past : List Forest}
    (full : past.length = historyLimit) :
    remember document past = (document :: past).dropLast := by
  have longer : (document :: past).length > historyLimit := by
    rw [List.length_cons]
    omega
  exact if_pos longer

theorem remember_eq_take {document : Forest} {past : List Forest}
    (within : past.length ≤ historyLimit) :
    remember document past = (document :: past).take historyLimit := by
  rcases Nat.lt_or_eq_of_le within with room | full
  · rw [remember_of_room room, List.take_of_length_le]
    rw [List.length_cons]
    omega
  · rw [remember_of_full full, List.dropLast_eq_take, List.length_cons, full]
    rfl

theorem length_remember_le {document : Forest} {past : List Forest}
    (within : past.length ≤ historyLimit) : (remember document past).length ≤ historyLimit := by
  rcases Nat.lt_or_eq_of_le within with room | full
  · rw [remember_of_room room, List.length_cons]
    omega
  · rw [remember_of_full full, List.length_dropLast, List.length_cons]
    omega

theorem Moves.withinLimit {after : Session} {move : HistoryMove} (moves : session.Moves after move)
    (within : session.WithinLimit) : after.WithinLimit := by
  unfold WithinLimit at within ⊢
  cases move with
  | stay =>
    simp only [Moves, history, Prod.mk.injEq] at moves
    rwa [moves.1, moves.2.2]
  | back =>
    obtain ⟨document, past, earlier, moved⟩ := moves
    simp only [history, Prod.mk.injEq] at moved
    rw [earlier, List.length_cons] at within
    rw [moved.1, moved.2.2, List.length_cons]
    omega
  | forward =>
    obtain ⟨document, future, later, moved⟩ := moves
    simp only [history, Prod.mk.injEq] at moved
    rw [later, List.length_cons] at within
    rw [moved.1, moved.2.2, List.length_cons]
    omega
  | record =>
    simp only [Moves, history, Prod.mk.injEq] at moves
    rw [moves.1, moves.2.2]
    exact length_remember_le (by omega)

/-! ### Moves of the timeline -/

theorem Moves.timeline {after : Session} {move : HistoryMove} (moves : session.Moves after move)
    (within : session.WithinLimit) : Timeline.Step move session.timeline after.timeline := by
  cases move with
  | stay =>
    rw [timeline_of_history moves]
    exact .stay _
  | back =>
    obtain ⟨document, past, earlier, moved⟩ := moves
    simp only [history, Prod.mk.injEq] at moved
    have before : session.timeline =
        ⟨past.reverse ++ document :: session.document :: session.future, past.length + 1⟩ := by
      simp [Session.timeline, earlier]
    rw [before, Session.timeline, moved.1, moved.2.1, moved.2.2]
    exact .back _ _
  | forward =>
    obtain ⟨document, future, later, moved⟩ := moves
    simp only [history, Prod.mk.injEq] at moved
    have reached : after.timeline =
        ⟨session.past.reverse ++ session.document :: document :: future,
          session.past.length + 1⟩ := by
      simp [Session.timeline, moved]
    rw [reached, Session.timeline, later]
    exact .forward _ _ (by simp)
  | record =>
    simp only [Moves, history, Prod.mk.injEq] at moves
    obtain ⟨past, _, noFuture⟩ := moves
    have kept : session.timeline.entries.take (session.timeline.cursor + 1) =
        session.past.reverse ++ [session.document] := by
      have whole : session.past.reverse.take (session.past.length + 1) = session.past.reverse :=
        List.take_of_length_le (by simp)
      simp [Session.timeline, List.take_append, whole]
    have bound : session.past.length ≤ historyLimit := by
      unfold WithinLimit at within
      omega
    rcases Nat.lt_or_eq_of_le bound with room | full
    · have reached : after.timeline =
          ⟨session.timeline.entries.take (session.timeline.cursor + 1) ++ [after.document],
            session.timeline.cursor + 1⟩ := by
        rw [kept, Session.timeline, past, noFuture, remember_of_room room]
        simp [Session.timeline]
      rw [reached]
      exact .record _ _ room
    · have reached : after.timeline =
          ⟨(session.timeline.entries.take (session.timeline.cursor + 1)).tail ++ [after.document],
            session.timeline.cursor⟩ := by
        have oldest : (session.document :: session.past).dropLast.reverse =
            (session.past.reverse ++ [session.document]).tail := by
          rw [← List.tail_reverse, List.reverse_cons]
        rw [kept, Session.timeline, past, noFuture, remember_of_full full, oldest]
        simp [Session.timeline]
      rw [reached]
      exact .recordFull _ _ full

/-- Moves in the history are moves of the timeline, and stay within the limit. -/
theorem Evolves.timeline {after : Session} (evolves : session.Evolves after)
    (within : session.WithinLimit) :
    after.WithinLimit ∧ Timeline.Leads session.timeline after.timeline := by
  induction evolves with
  | refl => exact ⟨within, .refl⟩
  | move _ moves inductionHypothesis =>
    exact ⟨moves.withinLimit inductionHypothesis.1,
      .step inductionHypothesis.2 (moves.timeline inductionHypothesis.1)⟩

theorem Reachable.withinLimit (reachable : session.Reachable) : session.WithinLimit := by
  obtain ⟨document, opened, operations, created, rfl⟩ := reachable
  have evolves := ((consistent_create created).keeps_run operations).2
  have within : opened.WithinLimit := by
    obtain ⟨_, rfl⟩ := create_eq_ok_iff.mp created
    simp [WithinLimit, ofForest]
  exact (evolves.timeline within).1

/-- The step makes the move of the timeline if it succeeds, and leaves the timeline if it fails. -/
def MovesTimeline {α : Type} (step : HostM Session α) (move : HistoryMove) (session : Session) :
    Prop :=
  match step.run session with
  | .ok _ after => Timeline.Step move session.timeline after.timeline
  | .error _ after => after.timeline = session.timeline

theorem Settles.movesTimeline {α : Type} {step : HostM Session α} {move : HistoryMove}
    (settles : Settles step move session) (within : session.WithinLimit) :
    MovesTimeline step move session := by
  unfold MovesTimeline
  rcases settles with ⟨failure, run⟩ | ⟨value, after, run, _, moves⟩
  · rw [run]
  · rw [run]
    exact moves.timeline within

/-! ### Undoing and redoing several times -/

/-- Do a step several times. -/
def again (step : HostM Session Unit) : Nat → HostM Session Unit
  | 0 => pure ()
  | count + 1 => do
    step
    again step count

theorem run_again_succ {step : HostM Session Unit} {next after : Session} {count : Nat}
    (one : step.run session = .ok () next) (others : (again step count).run next = .ok () after) :
    (again step (count + 1)).run session = .ok () after := by
  rw [again, EStateM.run_bind, one]
  exact others

/-- The last repetition can be told apart as well as the first. -/
theorem run_again_snoc {step : HostM Session Unit} {before after : Session} {count : Nat}
    (others : (again step count).run session = .ok () before)
    (last : step.run before = .ok () after) :
    (again step (count + 1)).run session = .ok () after := by
  induction count generalizing session with
  | zero =>
    obtain rfl : session = before := by simpa [again] using others
    exact run_again_succ last rfl
  | succ count inductionHypothesis =>
    rw [again, EStateM.run_bind] at others
    cases one : step.run session with
    | error failure reached => simp [one] at others
    | ok value reached =>
      rw [one] at others
      exact run_again_succ one (inductionHypothesis others)

theorem undo_of_past {document : Forest} {past : List Forest}
    (earlier : session.past = document :: past) :
    ∃ after, undo.run session = .ok () after ∧
      after.history = (past, document, session.document :: session.future) := by
  rw [run_undo, earlier]
  exact ⟨_, rfl, history_restore _ _⟩

theorem redo_of_future {document : Forest} {future : List Forest}
    (later : session.future = document :: future) :
    ∃ after, redo.run session = .ok () after ∧
      after.history = (session.document :: session.past, document, future) := by
  rw [run_redo, later]
  exact ⟨_, rfl, history_restore _ _⟩

/-- Undo as often as there is a past and redo as often: the history is as before. -/
theorem redo_again_undo_again {count : Nat} (enough : count ≤ session.past.length) :
    ∃ undone restored,
      (again undo count).run session = .ok () undone ∧
      undone.timeline = ⟨session.timeline.entries, session.timeline.cursor - count⟩ ∧
      (again redo count).run undone = .ok () restored ∧
      restored.history = session.history := by
  induction count generalizing session with
  | zero => exact ⟨session, session, rfl, rfl, rfl, rfl⟩
  | succ count inductionHypothesis =>
    cases earlier : session.past with
    | nil => simp [earlier] at enough
    | cons document past =>
      obtain ⟨before, undoneOnce, moved⟩ := undo_of_past earlier
      simp only [history, Prod.mk.injEq] at moved
      obtain ⟨pastBefore, documentBefore, futureBefore⟩ := moved
      have enoughBefore : count ≤ before.past.length := by
        rw [earlier, List.length_cons] at enough
        rw [pastBefore]
        omega
      obtain ⟨undone, almost, undoneAgain, sameLine, redoneAgain, restored⟩ :=
        inductionHypothesis enoughBefore
      simp only [history, Prod.mk.injEq, pastBefore, documentBefore, futureBefore] at restored
      -- The first undo is the one that the last redo takes back.
      obtain ⟨after, redoneOnce, final⟩ := redo_of_future restored.2.2
      refine ⟨undone, after, run_again_succ undoneOnce undoneAgain, ?_,
        run_again_snoc redoneAgain redoneOnce, ?_⟩
      · rw [sameLine]
        simp [timeline, earlier, pastBefore, documentBefore, futureBefore]
      · rw [final, restored.1, restored.2.1, history, earlier]

/-! ### The timeline -/

/-- The history of a session is a timeline of at most `historyLimit` documents besides the current
one. -/
structure FollowsTimeline (session : Session) : Prop where
  /-- A successful call makes the move that is its own. A failed one makes none. -/
  call : ∀ request : Request, MovesTimeline request.make request.move session
  finishEdit : ∀ text, MovesTimeline (Session.finishEdit text) (session.finishMove text) session
  setMode : ∀ mode, (session.setMode mode).timeline = session.timeline
  setLinkList : ∀ isOpen, (session.setLinkList isOpen).timeline = session.timeline
  setAttachmentList : ∀ isOpen, (session.setAttachmentList isOpen).timeline = session.timeline
  setSpatial : ∀ spatial, (session.setSpatial spatial).timeline = session.timeline
  markSaved : session.markSaved.timeline = session.timeline
  /-- Command lines, invocations and gestures make moves like calls. -/
  perform : ∀ operation, Timeline.Leads session.timeline (session.perform operation).timeline
  limit : session.past.length + session.future.length ≤ historyLimit
  /-- Undoing and then redoing equally often restores the document, wherever the session is. -/
  undoRedo : ∀ count ≤ session.past.length, ∃ undone restored,
    (again undo count).run session = .ok () undone ∧
    undone.timeline = ⟨session.timeline.entries, session.timeline.cursor - count⟩ ∧
    (again redo count).run undone = .ok () restored ∧
    restored.document = session.document ∧ restored.timeline = session.timeline

/-- After any run of operations, the history of a session is a timeline with a cursor. -/
theorem Reachable.followsTimeline (reachable : session.Reachable) : session.FollowsTimeline := by
  have consistent := reachable.consistent
  have within := reachable.withinLimit
  constructor
  case call => exact fun request => (settles_call consistent request).movesTimeline within
  case finishEdit =>
    intro text
    obtain ⟨after, run, settled⟩ := settles_finishEdit consistent text
    exact Settles.movesTimeline (.inr ⟨(), after, run, settled⟩) within
  case setMode => exact fun mode => timeline_of_history (session.history_setMode mode)
  case setLinkList =>
    intro isOpen
    unfold Session.setLinkList
    split <;> rfl
  case setAttachmentList =>
    intro isOpen
    unfold Session.setAttachmentList
    split <;> rfl
  case setSpatial => exact fun _ => rfl
  case markSaved => rfl
  case perform => exact fun operation => ((consistent.keeps_perform operation).2.timeline within).2
  case limit => exact within
  case undoRedo =>
    intro count enough
    obtain ⟨undone, restored, undoneAgain, sameLine, redoneAgain, sameHistory⟩ :=
      redo_again_undo_again enough
    exact ⟨undone, restored, undoneAgain, sameLine, redoneAgain, congrArg (·.2.1) sameHistory,
      timeline_of_history sameHistory⟩

theorem followsTimeline_sprouting :
    sprouting.past.length = 1 ∧ ∃ undone restored,
      (again undo 1).run sprouting = .ok () undone ∧
      undone.timeline = ⟨sprouting.timeline.entries, 0⟩ ∧
      (again redo 1).run undone = .ok () restored ∧
      restored.document = sprouting.document ∧ restored.timeline = sprouting.timeline :=
  ⟨rfl, reachable_sprouting.followsTimeline.undoRedo 1 (by decide)⟩

end Session

end MindMap
