import MindMap.Proofs.Canvas.Requests
import MindMap.Proofs.Session.Menus

/-!
# Gestures and the mode of a session

What gestures leave alone in a session, mode by mode. A gesture is its requests, and each request has its
part of the session: it takes a drop to change the document, a double click on a text to change the mode,
and an open list of links keeps the context menu shut. While text is edited or a range selected, a
gesture selects and closes, and that is all.

Nothing here hangs on whether the session is consistent, or on how it was reached.
-/

namespace MindMap

open CommandLine

/-- Requests for what is selected and which panels are open. -/
def Request.SetsView : Request → Prop
  | selectNode _ | openContextMenu .. | closeContextMenu | closeLists => True
  | _ => False

/-- Requests to open the context menu. -/
def Request.OpensMenu : Request → Prop
  | openContextMenu .. => True
  | _ => False

namespace Session

variable {session : Session}

/-! ### Parts and the requests that spare them -/

/-- What is worked on: the documents, the clipboard, the mode and the edit. -/
def work (session : Session) :
    (List Forest × Forest × List Forest) × Option Node × Mode × Option TextEdit :=
  (session.history, session.clipboard, session.mode, session.editing)

@[simp] theorem work_setSelection (session : Session) (id : Option String) :
    (session.setSelection id).work = session.work := by
  unfold setSelection
  split <;> rfl

theorem selectNode_spares_work (id : Option String) : (selectNode id).Spares work := by
  have selects : (modify (·.setSelection id) : HostM Session PUnit).Spares work :=
    .of_modify fun session => session.work_setSelection id
  cases id with
  | none => exact selects
  | some id => exact .bind (spares_findNode id) fun _ => selects

theorem openContextMenu_spares_work (x y : Float) (id : Option String) :
    ((Request.openContextMenu x y id).make : HostM Session (Option String)).Spares work := by
  have shows : (modify fun session => { session with menu := some ⟨x, y, id⟩ }.announce .panels :
      HostM Session PUnit).Spares work := .of_modify fun _ => rfl
  have opens : (openContextMenu x y id).Spares work := by
    unfold openContextMenu
    split
    · exact .bind (selectNode_spares_work id) fun _ => shows
    · exact shows
  exact opens.silently

theorem spares_work {request : Request} (setsView : request.SetsView) :
    (request.make : HostM Session (Option String)).Spares work := by
  cases request with
  | selectNode id => exact (selectNode_spares_work id).silently
  | openContextMenu x y id => exact openContextMenu_spares_work x y id
  | closeContextMenu =>
    have closes : closeContextMenu.Spares work := .of_modify fun session => by split <;> rfl
    exact closes.silently
  | closeLists =>
    have closes : closeLists.Spares work := .of_modify fun session => by split <;> rfl
    exact closes.silently
  | _ => cases setsView

theorem closing_spares_selection {request : Request}
    (closes : request = .closeContextMenu ∨ request = .closeLists) :
    (request.make : HostM Session (Option String)).Spares selection := by
  rcases closes with rfl | rfl
  · have closes : closeContextMenu.Spares selection :=
      .of_modify fun session => by split <;> rfl
    exact closes.silently
  · have closes : closeLists.Spares selection := .of_modify fun session => by split <;> rfl
    exact closes.silently

theorem startEdit_spares_history (id : String) :
    ((Request.startEditAtEnd id).make : HostM Session (Option String)).Spares history := by
  have begins : (beginEdit id .atEnd).Spares history :=
    .bind (spares_findNode id) fun _ => .of_modify fun session =>
      session.history_setSelection (some id)
  exact begins.silently

theorem moveNode_spares_mode (id target : String) (placement : Placement) :
    ((Request.moveNode id target placement).make : HostM Session (Option String)).Spares mode := by
  have moves : (moveNode id target placement).Spares mode := by
    intro session
    rw [moveNode, HostM.after, run_mutate]
    cases (Edit.move id target placement).run session.document <;> rfl
  exact moves.silently

/-- Nothing but a request to open the menu can open it. -/
theorem menu_eq_or_eq_none {request : Request} (opensNone : ¬request.OpensMenu)
    (session : Session) :
    (request.make.after session).menu = session.menu ∨ (request.make.after session).menu = none := by
  cases request with
  | openContextMenu => exact absurd trivial opensNone
  | closeContextMenu =>
    right
    rw [Request.make, HostM.after_silently]
    change (if session.menu.isSome then _ else session : Session).menu = none
    split
    · rfl
    · next closed => exact Option.not_isSome_iff_eq_none.mp closed
  | _ => exact .inl (spares_menu id session)

end Session

namespace Gesture

/-! ### The requests of a gesture, mode by mode -/

section

variable {σ ε : Type} [Host σ] {registry : Registry ε} {gesture : Gesture} {state : σ}

/-- Why a gesture makes a request. Outside normal mode and menu modes it selects and closes alone. -/
inductive Reason (gesture : Gesture) (state : σ) : Request → Prop where
  | view {request : Request} (setsView : request.SetsView) (opensNone : ¬request.OpensMenu) :
    Reason gesture state request
  | menu {x y : Float} {id : Option String} (normal : (Host.mode state).strategy = .normal)
      (listClosed : Host.linkListOpen state = false) :
    Reason gesture state (.openContextMenu x y id)
  | edit {id : String} {node : Node} (normal : (Host.mode state).strategy = .normal)
      (clicked : gesture.kind = .nodeDoubleClick id)
      (found : Host.findNode state id = some node) (isText : node.isText = true) :
    Reason gesture state (.startEditAtEnd id)
  | move {dragged target : String} {placement : Placement}
      (normal : (Host.mode state).strategy = .normal)
      (dropped : gesture.kind = .dragEnd dragged target placement) :
    Reason gesture state (.moveNode dragged target placement)

theorem reason_of_mem_requests :
    ∀ request ∈ gesture.requests registry state, Reason gesture state request := by
  have clicked (id : Option String) :
      ∀ request ∈ [Request.selectNode id], Reason gesture state request :=
    List.forall_mem_singleton.mpr (.view trivial not_false)
  have clickedBeside : ∀ request ∈ [Request.selectNode none, .closeContextMenu],
      Reason gesture state request :=
    List.forall_mem_cons.mpr ⟨.view trivial not_false, List.forall_mem_singleton.mpr
      (.view trivial not_false)⟩
  unfold requests
  cases normal : (Host.mode state).strategy with
  | normal =>
    cases kind : gesture.kind with
    | backgroundClick => exact clickedBeside
    | nodeClick id => exact clicked (some id)
    | backgroundMenu | nodeMenu =>
      cases isOpen : Host.linkListOpen state with
      | true => exact List.forall_mem_nil _
      | false => exact List.forall_mem_singleton.mpr (.menu normal isOpen)
    | nodeDoubleClick id =>
      dsimp only
      split
      · next isEdited =>
        obtain ⟨node, found, isText⟩ := (Option.any_eq_true _ _).mp isEdited
        exact List.forall_mem_cons.mpr ⟨.view trivial not_false, List.forall_mem_singleton.mpr
          (.edit normal kind found isText)⟩
      · exact List.forall_mem_nil _
    | dragEnd dragged target placement =>
      dsimp only
      split
      · exact List.forall_mem_nil _
      · exact List.forall_mem_singleton.mpr (.move normal kind)
    | press | release | wheel => exact List.forall_mem_nil _
  | insert =>
    cases kind : gesture.kind with
    | backgroundClick =>
      exact List.forall_mem_cons.mpr ⟨.view trivial not_false, List.forall_mem_singleton.mpr
        (.view trivial not_false)⟩
    | nodeClick id => exact clicked (some id)
    | _ => exact List.forall_mem_nil _
  | visual =>
    cases kind : gesture.kind with
    | backgroundClick => exact clickedBeside
    | nodeClick id => exact clicked (some id)
    | _ => exact List.forall_mem_nil _

theorem openMenu_ignored_or_answered (x y : Float) (id : Option String) (state : σ) :
    openMenu x y id state = (none, state) ∨
      ∃ outcome, openMenu x y id state = answered outcome := by
  unfold openMenu
  split
  · exact .inl rfl
  · exact .inr ⟨_, rfl⟩

theorem inNormalMode_ignored_or_answered [Executor ε] (registry : Registry ε) (gesture : Gesture)
    (state : σ) :
    inNormalMode registry gesture state = (none, state) ∨
      ∃ outcome, inNormalMode registry gesture state = answered outcome := by
  unfold inNormalMode
  cases gesture.kind with
  | backgroundMenu | nodeMenu => exact openMenu_ignored_or_answered _ _ _ state
  | press | release | wheel => exact .inl rfl
  | _ => exact .inr ⟨_, rfl⟩

/-- A gesture that is ignored has no effect. -/
theorem dispatch_ignored_or_answered [Executor ε] (registry : Registry ε) (gesture : Gesture)
    (state : σ) :
    gesture.dispatch registry state = (none, state) ∨
      ∃ outcome, gesture.dispatch registry state = answered outcome := by
  unfold dispatch takeBy
  cases (Host.mode state).strategy with
  | normal => exact inNormalMode_ignored_or_answered registry gesture state
  | insert =>
    simp only [inInsertMode]
    cases gesture.kind with
    | backgroundClick | nodeClick => exact .inr ⟨_, rfl⟩
    | _ => exact .inl rfl
  | visual =>
    simp only [inVisualMode]
    cases gesture.kind with
    | backgroundClick | nodeClick => exact inNormalMode_ignored_or_answered registry gesture state
    | _ => exact .inl rfl

end

/-! ### Sessions -/

/-- What a gesture leaves alone in a session, given its reply, what it has made of the session and the
requests that it has made. -/
structure RespectsMode (gesture : Gesture) (session : Session) (reply : Option Reply)
    (after : Session) (made : List Request) : Prop where
  /-- While text is edited or a range selected, the documents, the clipboard, the mode and the edit
  stay as they are. -/
  work : session.mode = .insert ∨ session.mode = .visual → after.work = session.work
  /-- The context menu is not opened then, nor even asked for. -/
  staysShut : session.mode = .insert ∨ session.mode = .visual →
    (∀ request ∈ made, ¬request.OpensMenu) ∧ (after.menu = session.menu ∨ after.menu = none)
  /-- A click beside all nodes leaves the node being edited selected. -/
  selection : session.mode = .insert → gesture.kind = .backgroundClick →
    after.selection = session.selection
  /-- The document, and its history, changes by a drop alone. -/
  history : session.mode = .normal ∨ session.mode = .menu → after.history ≠ session.history →
    ∃ dragged target placement, gesture.kind = .dragEnd dragged target placement
  /-- The mode changes by a double click on a text alone. -/
  mode : session.mode = .normal ∨ session.mode = .menu → after.mode ≠ session.mode →
    ∃ id node, gesture.kind = .nodeDoubleClick id ∧ session.document.find? id = some node ∧
      node.isText = true
  /-- In no mode is the context menu opened while the list of links is open. -/
  menu : session.linkListOpen = true →
    (∀ request ∈ made, ¬request.OpensMenu) ∧ (after.menu = session.menu ∨ after.menu = none)
  /-- A gesture without a reply has no effect at all. -/
  ignored : reply = none → after = session

section

variable {ε : Type} [TextWidth] [Executor ε] {registry : Registry ε} (stock : registry.HasStock)
  {gesture : Gesture} {session : Session}

include stock

theorem leadsBy_requests (gesture : Gesture) (session : Session) :
    Host.LeadsBy (· ∈ gesture.requests registry session) session
      (gesture.dispatch registry session).2 := by
  rw [(asked_dispatch (.inr stock) gesture session).after]
  exact .foldl (fun _ made => made) session

/-- What every request of a gesture leaves alone, the gesture does. -/
theorem dispatch_spares {γ : Type} {part : Session → γ}
    (spares : ∀ request ∈ gesture.requests registry session,
      (request.make : HostM Session (Option String)).Spares part) :
    part (gesture.dispatch registry session).2 = part session :=
  Session.spares_of_leads (leadsBy_requests stock gesture session) spares

theorem work_dispatch (busy : session.mode.strategy ≠ .normal) :
    (gesture.dispatch registry session).2.work = session.work := by
  refine dispatch_spares stock fun request made => ?_
  cases reason_of_mem_requests request made with
  | view setsView => exact Session.spares_work setsView
  | menu normal | edit normal | move normal => exact absurd normal busy

theorem menu_dispatch
    (opensNone : ∀ request ∈ gesture.requests registry session, ¬request.OpensMenu) :
    (gesture.dispatch registry session).2.menu = session.menu ∨
      (gesture.dispatch registry session).2.menu = none := by
  have preserved : ∀ (reached : Session) (request : Request),
      request ∈ gesture.requests registry session →
      reached.menu = session.menu ∨ reached.menu = none →
      (request.make.after reached).menu = session.menu ∨
        (request.make.after reached).menu = none := by
    intro reached request made before
    rcases Session.menu_eq_or_eq_none (opensNone request made) reached with same | shut
    · rwa [same]
    · exact .inr shut
  have kept := (leadsBy_requests stock gesture session).invariant preserved
  exact kept (.inl rfl)

theorem selection_dispatch (inserting : session.mode = .insert)
    (clicked : gesture.kind = .backgroundClick) :
    (gesture.dispatch registry session).2.selection = session.selection := by
  refine dispatch_spares stock fun request made => Session.closing_spares_selection ?_
  have strategy : (Host.mode session).strategy = .insert := congrArg Mode.strategy inserting
  rw [requests, strategy, clicked] at made
  simpa using made

theorem history_dispatch
    (noDrop : ¬∃ dragged target placement, gesture.kind = .dragEnd dragged target placement) :
    (gesture.dispatch registry session).2.history = session.history := by
  refine dispatch_spares stock fun request made => ?_
  cases reason_of_mem_requests request made with
  | view setsView => exact (Session.spares_work setsView).comp Prod.fst
  | menu => exact (Session.openContextMenu_spares_work _ _ _).comp Prod.fst
  | edit => exact Session.startEdit_spares_history _
  | move _ dropped => exact absurd ⟨_, _, _, dropped⟩ noDrop

theorem mode_dispatch (noText : ¬∃ id node, gesture.kind = .nodeDoubleClick id ∧
      session.document.find? id = some node ∧ node.isText = true) :
    (gesture.dispatch registry session).2.mode = session.mode := by
  refine dispatch_spares stock fun request made => ?_
  cases reason_of_mem_requests request made with
  | view setsView => exact (Session.spares_work setsView).comp (·.2.2.1)
  | menu => exact (Session.openContextMenu_spares_work _ _ _).comp (·.2.2.1)
  | edit _ clicked found isText => exact absurd ⟨_, _, clicked, found, isText⟩ noText
  | move => exact Session.moveNode_spares_mode _ _ _

/-- Gestures respect the mode of every session, wherever the stock commands are registered. -/
theorem dispatch_respects_mode (gesture : Gesture) (session : Session) :
    gesture.RespectsMode session (gesture.dispatch registry session).1
      (gesture.dispatch registry session).2
      ((gesture.dispatch registry (Logged.start session)).2.calls.map (·.request)) := by
  have busy (aside : session.mode = .insert ∨ session.mode = .visual) :
      session.mode.strategy ≠ .normal := by
    rcases aside with mode | mode <;> simp [mode, Mode.strategy]
  have staysShut (opensNone : ∀ request ∈ gesture.requests registry session,
      ¬request.OpensMenu) := And.intro opensNone (menu_dispatch stock opensNone)
  rw [(asked_dispatch (.inr stock) gesture session).logged]
  constructor
  case work => exact fun aside => work_dispatch stock (busy aside)
  case staysShut =>
    refine fun aside => staysShut fun request made => ?_
    cases reason_of_mem_requests request made with
    | view _ opensNone => exact opensNone
    | menu normal | edit normal | move normal => exact absurd normal (busy aside)
  case selection => exact selection_dispatch stock
  case history => exact fun _ changed => not_imp_comm.mp (history_dispatch stock) changed
  case mode => exact fun _ changed => not_imp_comm.mp (mode_dispatch stock) changed
  case menu =>
    refine fun isOpen => staysShut fun request made => ?_
    cases reason_of_mem_requests request made with
    | view _ opensNone => exact opensNone
    | menu _ listClosed => exact absurd (listClosed.symm.trans isOpen) Bool.false_ne_true
    | edit | move => exact id
  case ignored =>
    intro ignored
    rcases gesture.dispatch_ignored_or_answered registry session with same | ⟨outcome, same⟩
    · rw [same]
    · rw [same] at ignored
      cases ignored

end

attribute [local instance] TextWidth.perCharacter

/-- A session in the middle of an edit, with the context menu and the list of links open. -/
def midEdit : Session :=
  { Session.ofForest (Forest.ofRoots [(Item.plain "leaf" "Leaf").leaf]) with
    selection := some "leaf"
    mode := .insert
    editing := some ⟨"leaf", .atEnd⟩
    menu := some ⟨1, 2, some "leaf"⟩
    linkListOpen := true }

/-- A click beside all nodes closes what is open around an edit, and the edit goes on. -/
theorem click_closes_around_edit :
    Registry.stock.HasStock ∧
      ((⟨0, 0, .backgroundClick⟩ : Gesture).dispatch Registry.stock midEdit).2.work = midEdit.work ∧
      ((⟨0, 0, .backgroundClick⟩ : Gesture).dispatch Registry.stock midEdit).2.selection = some "leaf" ∧
      ((⟨0, 0, .backgroundClick⟩ : Gesture).dispatch Registry.stock midEdit).2.menu = none ∧
      ((⟨0, 0, .backgroundClick⟩ : Gesture).dispatch Registry.stock midEdit).2.linkListOpen = false := by
  have respects :=
    dispatch_respects_mode Registry.hasStock_stock ⟨0, 0, .backgroundClick⟩ midEdit
  exact ⟨Registry.hasStock_stock, respects.work (.inl rfl), respects.selection rfl rfl, rfl, rfl⟩

end Gesture

end MindMap
