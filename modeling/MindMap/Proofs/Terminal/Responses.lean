import MindMap.Proofs.Terminal.Runs

/-!
# Responses to keys

What a turn does to the lines being typed and to the session below them, said once for all keys.
Outside of an edit a key may change what keys mean or run a line; inside of one it changes the line being
edited or ends the edit. Keys that save, quit or answer a question do neither. No key scrolls.

Which key has which response is left to the definitions, and so is what becomes of the command line
and of the keys typed before.
-/

namespace MindMap

namespace App

variable {app : App}

/-- A save says so to the session, and to nothing that is typed. -/
theorem eq_of_save [JsonLibrary] {refusal : Option String} {saved : App}
    (save : app.save refusal = .ok saved) :
    ∃ file, saved = { app with file, session := app.session.markSaved } := by
  unfold App.save at save
  split at save
  · cases save
  · cases save
    exact ⟨_, rfl⟩

/-- The ways in which an application responds to a turn. -/
inductive Response [TextWidth] (app after : App) : Prop
  /-- Nothing has been typed or run. The document may have been saved. -/
  | holds (session : after.session = app.session ∨ after.session = app.session.markSaved)
      (inputMode : after.inputMode = app.inputMode) (editLine : after.editLine = app.editLine)
  /-- Keys mean something else now, or more of a key sequence or a command line has been typed. -/
  | switches (outside : app.inputMode ≠ .insert) (stays : after.inputMode ≠ .insert)
      (session : after.session = app.session) (editLine : after.editLine = app.editLine)
  | runs (outside : app.inputMode ≠ .insert) {ready : App} (line : String)
      (stays : ready.inputMode ≠ .insert) (session : ready.session = app.session)
      (editLine : ready.editLine = app.editLine) (runs : after = ready.runLine line)
  | types (inside : app.inputMode = .insert) (stays : after.inputMode = .insert)
      (session : after.session = app.session)
  | finishes (inside : app.inputMode = .insert) (left : after.inputMode = .normal)
      (session : after.session = (Session.finishEdit (some app.editLine.text)).after app.session)
      (editLine : after.editLine = .empty)

/-- A response that does not scroll. -/
structure Responds [TextWidth] (app after : App) : Prop where
  response : app.Response after
  scrollTop : after.scrollTop = app.scrollTop

theorem scrollTop_runLine [TextWidth] (app : App) (line : String) :
    (app.runLine line).scrollTop = app.scrollTop := by
  obtain ⟨status, output, ran⟩ := app.runLine_eq line
  obtain ⟨editLine, inputMode, followed⟩ := followSession_eq
    { app with session := (app.registry.executeLine line app.session).2, status, output }
  rw [ran, followed]

namespace Responds

variable [TextWidth] {after : App}

theorem holds (session : after.session = app.session) (inputMode : after.inputMode = app.inputMode)
    (editLine : after.editLine = app.editLine) (scrollTop : after.scrollTop = app.scrollTop) :
    app.Responds after :=
  ⟨.holds (.inl session) inputMode editLine, scrollTop⟩

theorem switches (outside : app.inputMode ≠ .insert) (stays : after.inputMode ≠ .insert)
    (session : after.session = app.session) (editLine : after.editLine = app.editLine)
    (scrollTop : after.scrollTop = app.scrollTop) : app.Responds after :=
  ⟨.switches outside stays session editLine, scrollTop⟩

theorem runs (outside : app.inputMode ≠ .insert) (ready : App) (line : String)
    (stays : ready.inputMode ≠ .insert) (session : ready.session = app.session)
    (editLine : ready.editLine = app.editLine) (scrollTop : ready.scrollTop = app.scrollTop) :
    app.Responds (ready.runLine line) :=
  ⟨.runs outside line stays session editLine rfl, (scrollTop_runLine ready line).trans scrollTop⟩

theorem types (inside : app.inputMode = .insert) (stays : after.inputMode = .insert)
    (session : after.session = app.session) (scrollTop : after.scrollTop = app.scrollTop) :
    app.Responds after :=
  ⟨.types inside stays session, scrollTop⟩

end Responds

variable [TextWidth]

theorem responds_normalKey (outside : app.inputMode ≠ .insert) (key : Key) :
    app.Responds (app.normalKey key) := by
  have runs : ∀ (keys : KeySequence) (line : String),
      app.Responds ({ app with keys }.runKeys line) := fun keys line =>
    .runs outside { app with keys := keys.reset } line outside rfl rfl rfl
  unfold normalKey
  split
  · exact runs app.keys "left"
  · exact runs app.keys "right"
  · exact runs app.keys "up"
  · exact runs app.keys "down"
  · exact runs app.keys "append"
  · exact .holds rfl rfl rfl rfl
  · dsimp only
    split
    · exact .holds rfl rfl rfl rfl
    · exact runs _ _
    · exact .switches outside nofun rfl rfl rfl
    · exact .holds rfl rfl rfl rfl
  · exact .holds rfl rfl rfl rfl

theorem responds_commandLineKey (outside : app.inputMode ≠ .insert) (key : Key) :
    app.Responds (app.commandLineKey key) := by
  unfold commandLineKey
  split
  · exact .switches outside nofun rfl rfl rfl
  · dsimp only
    split
    · exact .switches outside nofun rfl rfl rfl
    · exact .runs outside { app with inputMode := .normal, commandLine := "" } app.commandLine nofun
        rfl rfl rfl
  · split <;> exact .holds rfl rfl rfl rfl
  · split
    · exact .switches outside nofun rfl rfl rfl
    · exact .holds rfl rfl rfl rfl
  · exact .holds rfl rfl rfl rfl
  · exact .holds rfl rfl rfl rfl

theorem responds_finishEdit (inside : app.inputMode = .insert) : app.Responds app.finishEdit := by
  unfold finishEdit
  dsimp only
  split
  · next run => exact ⟨.finishes inside rfl (HostM.after_of_ok run).symm rfl, rfl⟩
  · next run => exact ⟨.finishes inside rfl (HostM.after_of_error run).symm rfl, rfl⟩

theorem responds_insertKey [Segmentation] (inside : app.inputMode = .insert) (key : Key) :
    app.Responds (app.insertKey key) := by
  unfold insertKey
  split
  · exact responds_finishEdit inside
  · exact responds_finishEdit inside
  all_goals exact .types inside inside rfl rfl

theorem responds_plainKey [Segmentation] (app : App) (key : Key) : app.Responds (app.plainKey key) := by
  unfold plainKey
  split
  · next normal => exact responds_normalKey (by simp [normal]) key
  · next commandLine => exact responds_commandLineKey (by simp [commandLine]) key
  · next insert => exact responds_insertKey insert key

variable [JsonLibrary]

theorem responds_confirmKey (app : App) (refusal : Option String) (key : Key) :
    app.Responds (app.confirmKey refusal key) := by
  unfold confirmKey
  split
  case h_1 | h_2 =>
    split
    · next saved =>
      obtain ⟨file, rfl⟩ := eq_of_save saved
      exact ⟨.holds (.inr rfl) rfl rfl, rfl⟩
    · exact .holds rfl rfl rfl rfl
  all_goals exact .holds rfl rfl rfl rfl

theorem responds_saveKey (app : App) (refusal : Option String) :
    app.Responds (app.saveKey refusal) := by
  unfold saveKey
  split
  · next saved =>
    obtain ⟨file, rfl⟩ := eq_of_save saved
    exact ⟨.holds (.inr rfl) rfl rfl, rfl⟩
  · exact .holds rfl rfl rfl rfl

variable [Segmentation]

theorem responds_pressKey (app : App) (turn : Turn) : app.Responds (app.pressKey turn) := by
  let shown := { app with output := none }
  have responds : shown.Responds (app.pressKey turn) := by
    unfold pressKey
    dsimp only
    split
    · exact responds_confirmKey shown turn.refusal turn.event.key
    · split
      · exact responds_saveKey shown turn.refusal
      · unfold quitKey
        split <;> exact .holds rfl rfl rfl rfl
      · exact responds_plainKey shown turn.event.key
  -- What was shown until now makes no difference.
  obtain ⟨response, scrollTop⟩ := responds
  refine ⟨?_, scrollTop⟩
  cases response with
  | holds session inputMode editLine => exact .holds session inputMode editLine
  | switches outside stays session editLine => exact .switches outside stays session editLine
  | runs outside line stays session editLine runs =>
    exact .runs outside line stays session editLine runs
  | types inside stays session => exact .types inside stays session
  | finishes inside left session editLine => exact .finishes inside left session editLine

/-- Every turn has one of these responses, and none scrolls. -/
theorem responds_handle (app : App) (turn : Turn) : app.Responds (app.handle turn) := by
  unfold handle
  split
  · exact .holds rfl rfl rfl rfl
  · exact responds_pressKey app turn

end App

end MindMap
