import Mathlib
import UniversalMachine.Proofs.InputLine
import UniversalMachine.Proofs.Window

/-! Whether the console pane stays at the end of the log. Output, a halt and a submitted line bring it
there, by an offset that stands for the end. Drawing replaces this offset by the number that it means at
the height of the pane. So the pane stays at the end as long as it does not get lower. -/
namespace UniversalMachine

/-- Whether the console pane goes to the end of the log at this event. -/
def Event.returns : Event → Bool
  | .print _ => true
  | .halted => true
  | _ => false

namespace Terminal
open Machine

variable {t : Terminal}

/-! ### What the acts do to the log and the offset -/

theorem foldl_absorb_session (events : List Event) (t : Terminal) :
    (events.foldl absorb t).session = t.session := by
  induction events generalizing t with
  | nil => rfl
  | cons event events ih =>
    rw [List.foldl_cons,ih]
    cases event <;> rfl

theorem foldl_absorb_scroll (events : List Event) (t : Terminal) :
    (events.foldl absorb t).consoleScroll =
      if events.any Event.returns then bottom else t.consoleScroll := by
  induction events generalizing t with
  | nil => rfl
  | cons event events ih =>
    rw [List.foldl_cons,ih]
    cases event <;> simp [absorb, Event.returns]

theorem foldl_absorb_written (events : List Event) (h : t.log.Written) :
    (events.foldl absorb t).log.Written := by
  induction events generalizing t with
  | nil => exact h
  | cons event events ih =>
    apply ih
    cases event with
    | programLoaded platters => exact h.push (.notice _)
    | print bytes => exact h.push (.bytes _)
    | readLine => exact h
    | halted => exact h.push (.notice _)
    | fault fault snapshot => exact h

/-- Only news that the pane goes to the end for, and that of a new program, are put into the log. -/
theorem foldl_absorb_log {events : List Event} (h : events.any Event.returns = false)
    (hloaded : ∀ platters, .programLoaded platters ∉ events) (t : Terminal) :
    (events.foldl absorb t).log = t.log := by
  induction events generalizing t with
  | nil => rfl
  | cons event events ih =>
    simp only [List.any_cons, Bool.or_eq_false_iff] at h
    rw [List.foldl_cons,ih h.2 fun platters hm => hloaded platters (List.mem_cons_of_mem _ hm)]
    cases event with
    | programLoaded platters => exact absurd List.mem_cons_self (hloaded platters)
    | print bytes => cases h.1
    | readLine => rfl
    | halted => cases h.1
    | fault fault snapshot => rfl

/-- A slice never tells of a new program. -/
theorem programLoaded_not_mem_news (hq : t.session.queue.newest = []) (platters : ℕ) :
    .programLoaded platters ∉ t.news := by
  unfold news
  rcases t.session.pump_cases t.slice with hsame | ⟨m,n,hm,he,_⟩
  · simp [hsame, EventQueue.events, hq]
  · obtain ⟨_,prints,hprints,_,hevents⟩ := Session.pump_drained hm he hq t.slice
    rw [hevents,List.mem_append]
    rintro (hmem | hmem)
    · exact hprints _ hmem
    · unfold Run.closing at hmem
      split at hmem <;> simp at hmem

/-- Input for the program changes nothing that the console pane shows. -/
theorem deliver_keeps {request : Request} (h : ∀ image, request ≠ .loadProgram image) :
    (t.deliver request).session.queue = t.session.queue ∧ (t.deliver request).log = t.log ∧
      (t.deliver request).consoleScroll = t.consoleScroll := by
  unfold deliver
  cases request with
  | loadProgram image => exact absurd rfl (h image)
  | readLineDone line => cases hm : t.session.machine <;> simp [Session.handle, hm]
  | endOfInput => cases hm : t.session.machine <;> simp [Session.handle, hm]

theorem submitLine_keeps (t : Terminal) :
    t.submitLine.session.queue = t.session.queue ∧
      t.submitLine.log = t.log.pushBytes (lineOf t.input) ∧ t.submitLine.consoleScroll = bottom :=
  @deliver_keeps
    { t with input := "", log := t.log.pushBytes (lineOf t.input), consoleScroll := bottom }
    (.readLineDone (lineOf t.input)) nofun

theorem closeInput_keeps (t : Terminal) :
    t.closeInput.session.queue = t.session.queue ∧ t.closeInput.log = t.log ∧
      t.closeInput.consoleScroll = t.consoleScroll :=
  @deliver_keeps { t with input := "" } .endOfInput nofun

/-- What holds of a terminal from its construction on, whatever the session was. -/
structure Kept (t : Terminal) : Prop where
  drained : t.session.queue.newest = []
  written : t.log.Written

theorem ofSession_kept (session : Session) (name : String) (slice : ℕ) :
    Kept { ofSession session name with slice } := by
  refine ⟨?_,foldl_absorb_written _ ⟨[],rfl⟩⟩
  change (ofSession session name).session.queue.newest = []
  unfold ofSession absorbAll
  dsimp only
  rw [foldl_absorb_session]
  rfl

theorem ofSession_scroll (session : Session) (name : String) :
    (ofSession session name).consoleScroll = bottom := by
  unfold ofSession absorbAll
  dsimp only
  rw [foldl_absorb_scroll]
  exact ite_self bottom

theorem Kept.press (h : t.Kept) (key : Key) : (t.handleKey key).Kept := by
  have hpressed := t.pressed_handleKey key
  generalize t.handleKey key = t' at hpressed ⊢
  cases hpressed with
  | looked => exact ⟨h.drained,h.written⟩
  | typed => exact ⟨h.drained,h.written⟩
  | submitted =>
    obtain ⟨hqueue,hlog,_⟩ := t.submitLine_keeps
    exact ⟨by rw [hqueue]; exact h.drained,by rw [hlog]; exact h.written.push (.bytes _)⟩
  | closed =>
    obtain ⟨hqueue,hlog,_⟩ := t.closeInput_keeps
    exact ⟨by rw [hqueue]; exact h.drained,by rw [hlog]; exact h.written⟩

theorem Kept.act (h : t.Kept) (a : Act) : (t.act a).Kept := by
  cases a with
  | pump =>
    change t.pump.Kept
    rw [pump_eq_foldl]
    refine ⟨?_,foldl_absorb_written _ h.written⟩
    rw [foldl_absorb_session]
  | press key => exact h.press key
  | draw paneHeight =>
    obtain ⟨_,_,hdraw⟩ := t.settleScroll_eq paneHeight
    change (t.settleScroll paneHeight).Kept
    rw [hdraw]
    exact ⟨h.drained,h.written⟩

theorem Kept.foldl_act (h : t.Kept) (acts : List Act) : (acts.foldl Terminal.act t).Kept := by
  induction acts generalizing t with
  | nil => exact h
  | cons first acts ih => exact ih (h.act first)

/-- The act brings the console pane to the end of the log. -/
def Returns (t : Terminal) : Act → Prop
  | .pump => t.news.any Event.returns = true
  | .press key => key.code = .enter ∧ t.inputEnabled = true
  | .draw _ => False

theorem Returns.scroll {a : Act} (h : t.Returns a) : (t.act a).consoleScroll = bottom := by
  cases a with
  | pump =>
    change t.pump.consoleScroll = bottom
    rw [pump_eq_foldl,foldl_absorb_scroll]
    exact if_pos h
  | press key =>
    obtain ⟨code,ctrl⟩ := key
    obtain ⟨hcode,henabled⟩ := h
    dsimp only at hcode
    subst hcode
    have hsubmit : t.handleKey ⟨.enter,ctrl⟩ = t.submitLine := by
      simp [handleKey, typeKey, henabled]
    change (t.handleKey ⟨.enter,ctrl⟩).consoleScroll = bottom
    rw [hsubmit]
    exact t.submitLine_keeps.2.2
  | draw paneHeight => exact absurd h id

theorem settleScroll_log (t : Terminal) (paneHeight : ℕ) :
    (t.settleScroll paneHeight).log = t.log := by
  obtain ⟨_,_,hdraw⟩ := t.settleScroll_eq paneHeight
  rw [hdraw]

theorem settleScroll_scroll (hlog : t.log.Written) (hne : t.log.lines ≠ []) (paneHeight : ℕ) :
    (t.settleScroll paneHeight).consoleScroll =
      min t.consoleScroll (t.log.lines.length-visibleLines paneHeight) := by
  have hheap : ∀ t : Terminal, t.clampHeap.consoleScroll = t.consoleScroll := by
    intro t
    unfold clampHeap
    split <;> rfl
  unfold settleScroll
  rw [hheap,clampConsole_eq hlog hne]

/-- What an act makes of the offset, if it does not bring the pane to the end of the log or a page up. -/
def Act.scroll (lines offset : ℕ) : Act → ℕ
  | .pump => offset
  | .press key => if key.code = .pageDown then scrollDown offset page else offset
  | .draw paneHeight => min offset (lines-visibleLines paneHeight)

theorem handleKey_scroll {key : Key} (hup : key.code ≠ .pageUp) (h : ¬ t.Returns (.press key)) :
    (t.handleKey key).log = t.log ∧ (t.handleKey key).consoleScroll =
      if key.code = .pageDown then scrollDown t.consoleScroll page else t.consoleScroll := by
  have hhandled := t.handled_handleKey key
  generalize t.handleKey key = t' at hhandled ⊢
  cases hhandled with
  | pageUp => exact absurd rfl hup
  | pageDown => exact ⟨rfl,rfl⟩
  | looked minor => exact ⟨rfl,(if_neg minor.down).symm⟩
  | typed minor => exact ⟨rfl,(if_neg minor.down).symm⟩
  | submitted ctrl enabled => exact absurd ⟨rfl,enabled⟩ h
  | closed => exact t.closeInput_keeps.2

theorem Kept.act_scroll (hkept : t.Kept) {a : Act} (hup : ∀ ctrl, a ≠ .press ⟨.pageUp,ctrl⟩)
    (h : ¬ t.Returns a) :
    (t.act a).log = t.log ∧ (t.log.lines ≠ [] →
      (t.act a).consoleScroll = a.scroll t.log.lines.length t.consoleScroll) := by
  cases a with
  | pump =>
    have hquiet : t.news.any Event.returns = false := by simpa [Returns] using h
    change t.pump.log = t.log ∧ (_ → t.pump.consoleScroll = t.consoleScroll)
    rw [pump_eq_foldl,foldl_absorb_log hquiet (programLoaded_not_mem_news hkept.drained),
      foldl_absorb_scroll,hquiet]
    exact ⟨rfl,fun _ => rfl⟩
  | press key =>
    have hcode : key.code ≠ .pageUp := by
      rintro hcode
      exact hup key.ctrl (by rw [← hcode])
    obtain ⟨hlog,hscroll⟩ := handleKey_scroll hcode h
    exact ⟨hlog,fun _ => hscroll⟩
  | draw paneHeight =>
    exact ⟨t.settleScroll_log paneHeight,
      fun hne => settleScroll_scroll hkept.written hne paneHeight⟩

/-! ### When the end is shown -/

/-- A frame with a console pane of this height would show the end of the log. -/
def ShowsEnd (t : Terminal) (paneHeight : ℕ) : Prop :=
  let drawn := t.settleScroll paneHeight
  let shown := drawn.window paneHeight
  shown ≠ [] ∧ t.log.lines.take drawn.consoleScroll++shown = t.log.lines

theorem showsEnd_iff (hlog : t.log.Written) (hne : t.log.lines ≠ []) (paneHeight : ℕ) :
    t.ShowsEnd paneHeight ↔ t.log.lines.length-visibleLines paneHeight ≤ t.consoleScroll := by
  have hpos := List.length_pos_of_ne_nil hne
  have hrows : 1 ≤ visibleLines paneHeight := le_max_left _ _
  have hshown : ∀ offset : ℕ,
      t.log.lines.take offset++(t.log.lines.drop offset).take (visibleLines paneHeight) =
        t.log.lines ↔ t.log.lines.length-visibleLines paneHeight ≤ offset := by
    intro offset
    nth_rewrite 3 [← List.take_append_drop offset t.log.lines]
    rw [List.append_cancel_left_eq,List.take_eq_self_iff,List.length_drop]
    omega
  unfold ShowsEnd window
  dsimp only
  rw [settleScroll_log,settleScroll_scroll hlog hne,hshown]
  constructor
  · rintro ⟨_,hle⟩
    omega
  · intro hle
    refine ⟨?_,by omega⟩
    apply List.ne_nil_of_length_pos
    rw [List.length_take,List.length_drop]
    omega

def Act.isPageDown : Act → Bool
  | .press key => key.code = .pageDown
  | _ => false

/-- From every frame that was drawn, the keys pressed after it lead down to the last page for a pane with
this number of rows. -/
def Reaches (lines rows : ℕ) (acts : List Act) : Prop :=
  ∀ paneHeight later, .draw paneHeight :: later <:+ acts →
    lines-rows ≤ lines-visibleLines paneHeight+page*later.countP Act.isPageDown

theorem reaches_concat {lines rows : ℕ} {acts : List Act} {last : Act} :
    Reaches lines rows (acts++[last]) ↔
      (∀ paneHeight, last = .draw paneHeight → lines-rows ≤ lines-visibleLines paneHeight) ∧
      ∀ paneHeight later, .draw paneHeight :: later <:+ acts →
        lines-rows ≤ lines-visibleLines paneHeight+page*(later++[last]).countP Act.isPageDown := by
  unfold Reaches
  constructor
  · intro h
    constructor
    · rintro paneHeight rfl
      simpa using h paneHeight [] (List.suffix_append _ _)
    · intro paneHeight later hlater
      obtain ⟨front,rfl⟩ := hlater
      exact h paneHeight (later++[last]) ⟨front,by simp⟩
  · rintro ⟨hlast,hearlier⟩ paneHeight later hlater
    rcases List.suffix_concat_iff.mp hlater with hnil | ⟨shorter,heq,hshorter⟩
    · cases hnil
    · cases shorter with
      | nil =>
        obtain ⟨rfl,rfl⟩ := List.cons.inj heq
        simpa using hlast paneHeight rfl
      | cons first shorter =>
        obtain ⟨rfl,rfl⟩ := List.cons.inj heq
        exact hearlier paneHeight shorter hshorter

theorem scroll_reaches {lines offset : ℕ} {acts : List Act} (hsmall : lines ≤ 10001)
    (h : ∀ rows, lines-rows ≤ offset ↔ Reaches lines rows acts) (last : Act) (rows : ℕ) :
    lines-rows ≤ last.scroll lines offset ↔ Reaches lines rows (acts++[last]) := by
  have hbottom : 10001 ≤ bottom := by decide
  rw [reaches_concat]
  cases last with
  | pump =>
    rw [Act.scroll,h rows]
    simp [Reaches, Act.isPageDown]
  | draw paneHeight =>
    rw [Act.scroll,le_min_iff,h rows,and_comm]
    simp [Reaches, Act.isPageDown]
  | press key =>
    by_cases hkey : key.code = .pageDown
    · have hdown : lines-rows ≤ scrollDown offset page ↔ lines-(rows+page) ≤ offset := by
        unfold scrollDown page
        omega
      rw [Act.scroll,if_pos hkey,hdown,h (rows+page)]
      refine (forall₃_congr fun paneHeight later _ => ?_).trans (and_iff_right nofun).symm
      have hcount : (later++[Act.press key]).countP Act.isPageDown = later.countP Act.isPageDown+1 := by
        simp [Act.isPageDown, hkey]
      rw [hcount]
      unfold page
      omega
    · rw [Act.scroll,if_neg hkey,h rows]
      simp [Reaches, Act.isPageDown, hkey]

/-- The acts neither bring the pane to the end of the log nor a page up. -/
def Undisturbed (t : Terminal) (acts : List Act) : Prop :=
  ¬ Occurs (fun t a => t.Returns a ∨ ∃ ctrl, a = .press ⟨.pageUp,ctrl⟩) t acts

theorem undisturbed_concat {acts : List Act} {last : Act} :
    t.Undisturbed (acts++[last]) ↔ t.Undisturbed acts ∧ ¬ (acts.foldl act t).Returns last ∧
      ∀ ctrl, last ≠ .press ⟨.pageUp,ctrl⟩ := by
  unfold Undisturbed
  rw [occurs_concat,not_or,not_or,not_exists]

/-- The offset is below the last page of a pane exactly if some frame has set it there, and the keys have
not led down since. -/
theorem Kept.foldl_scroll (h : t.Kept) (hend : t.consoleScroll = bottom) {acts : List Act}
    (hacts : t.Undisturbed acts) :
    (acts.foldl Terminal.act t).log = t.log ∧ (t.log.lines ≠ [] → ∀ rows,
      t.log.lines.length-rows ≤ (acts.foldl Terminal.act t).consoleScroll ↔
        Reaches t.log.lines.length rows acts) := by
  have hsmall : t.log.lines.length ≤ 10001 := h.written.size_eq ▸ h.written.size_le
  induction acts using List.reverseRecOn with
  | nil =>
    refine ⟨rfl,fun _ rows => iff_of_true ?_ ?_⟩
    · change _ ≤ t.consoleScroll
      rw [hend]
      exact (Nat.sub_le _ _).trans (hsmall.trans (by decide))
    · intro paneHeight later hlater
      simp at hlater
  | append_singleton acts last ih =>
    obtain ⟨hacts,hlast,hup⟩ := undisturbed_concat.mp hacts
    obtain ⟨hlog,hscroll⟩ := ih hacts
    obtain ⟨hsame,hmoved⟩ := (h.foldl_act acts).act_scroll hup hlast
    rw [List.foldl_concat,hsame]
    refine ⟨hlog,fun hne rows => ?_⟩
    rw [hlog] at hmoved
    rw [hmoved hne]
    exact scroll_reaches hsmall (hscroll hne) last rows

/-- The pane is at the end of the log: it is new, or the last act has brought it there. -/
def AtEnd (start : Terminal) (acts : List Act) : Prop :=
  acts = [] ∨ ∃ earlier last, acts = earlier++[last] ∧ (earlier.foldl act start).Returns last

theorem AtEnd.scroll {start : Terminal} {acts : List Act} (h : AtEnd start acts)
    (hstart : start.consoleScroll = bottom) : (acts.foldl act start).consoleScroll = bottom := by
  rcases h with rfl | ⟨earlier,last,rfl,hreturns⟩
  · exact hstart
  · rw [List.foldl_concat]
    exact hreturns.scroll

/-- From the last time on that the console pane was new, or output, a halt or a submitted line has brought it
to the end of the log, and as long as no page up key is pressed, it shows the end in the next frame exactly
if the page down keys behind each earlier frame make up for the rows that the pane has lost since. So it does
if no earlier frame had more rows. -/
theorem console_end_shown (session : Session) (name : String) (slice : ℕ) (before since : List Act)
    (paneHeight : ℕ) :
    let start := { ofSession session name with slice }
    let t := since.foldl act (before.foldl act start)
    start.AtEnd before → (before.foldl act start).Undisturbed since → t.log.lines ≠ [] →
    (t.ShowsEnd paneHeight ↔ Reaches t.log.lines.length (visibleLines paneHeight) since) ∧
    ((∀ drawn, .draw drawn ∈ since → visibleLines drawn ≤ visibleLines paneHeight) →
      t.ShowsEnd paneHeight) := by
  intro start t hend hsince hne
  have hstart : start.Kept := ofSession_kept session name slice
  have hbefore := hstart.foldl_act before
  have hscroll := hend.scroll (ofSession_scroll session name)
  obtain ⟨hlog,hreaches⟩ := hbefore.foldl_scroll hscroll hsince
  have hiff : t.ShowsEnd paneHeight ↔
      Reaches t.log.lines.length (visibleLines paneHeight) since := by
    have hwritten : t.log.Written := (hbefore.foldl_act since).written
    rw [showsEnd_iff hwritten hne]
    change t.log = _ at hlog
    rw [hlog] at hne ⊢
    exact hreaches hne (visibleLines paneHeight)
  refine ⟨hiff,fun hlower => hiff.mpr fun drawn later hlater => ?_⟩
  have hrows := hlower drawn (hlater.subset List.mem_cons_self)
  omega

/-- Five lines of output, and a frame with four rows for the log. The end is in the next frame if that has
six rows, and if it has two rows and the page down key is pressed before. -/
theorem console_end_shown_five :
    let refuses : UInt32 → Bool := fun _ => false
    let program : Array UInt32 :=
      #[0xd000000a,0xa0000000,0xa0000000,0xa0000000,0xa0000000,0xa0000000,0x70000000]
    let session : Session := ⟨refuses,some (.ofProgram refuses program),⟨[.programLoaded 7],none⟩⟩
    let start := { ofSession session "" with slice := 20 }
    let printed := [Act.pump].foldl act start
    let drawn : List Act := [.draw 6]
    let turned := drawn++[.press ⟨.pageDown,false⟩]
    start.AtEnd [.pump] ∧ printed.Undisturbed drawn ∧ printed.Undisturbed turned ∧
    (drawn.foldl act printed).consoleScroll = 3 ∧ (drawn.foldl act printed).log.lines.length = 7 ∧
    (drawn.foldl act printed).ShowsEnd 8 ∧ (turned.foldl act printed).ShowsEnd 4 := by
  intro refuses program session start printed drawn turned
  have hend : start.AtEnd [.pump] := by
    refine .inr ⟨[],.pump,rfl,?_⟩
    simp only [Returns, List.foldl_nil, start, session, program]
    cbv
  have hdrawn : printed.Undisturbed drawn := undisturbed_concat.mpr ⟨not_occurs_nil,id,by simp⟩
  have hturned : printed.Undisturbed turned :=
    undisturbed_concat.mpr ⟨hdrawn,by simp [Returns],by simp⟩
  have hscroll : (drawn.foldl act printed).consoleScroll = 3 := by
    simp only [drawn, printed, start, session, program]
    cbv
  have hlines : (drawn.foldl act printed).log.lines.length = 7 := by
    simp only [drawn, printed, start, session, program]
    cbv
  have hlinesTurned : (turned.foldl act printed).log.lines.length = 7 := by
    simp only [turned, drawn, printed, start, session, program]
    cbv
  have hne := List.ne_nil_of_length_pos (hlines.trans_gt (by decide))
  have hneTurned := List.ne_nil_of_length_pos (hlinesTurned.trans_gt (by decide))
  refine ⟨hend,hdrawn,hturned,hscroll,hlines,?_,?_⟩
  · refine (console_end_shown session "" 20 [.pump] drawn 8 hend hdrawn hne).2 ?_
    intro paneHeight hmem
    cases List.mem_singleton.mp hmem
    decide
  · refine (console_end_shown session "" 20 [.pump] turned 4 hend hturned hneTurned).1.mpr ?_
    rw [hlinesTurned]
    refine reaches_concat.mpr ⟨by simp,fun paneHeight later _ => ?_⟩
    simp only [List.countP_append, page]
    change _ ≤ _+10*(_+1)
    omega

/-- The same frame, and no key. In the next frame, which has two rows, the last line is not shown. -/
theorem console_end_lost :
    let refuses : UInt32 → Bool := fun _ => false
    let program : Array UInt32 :=
      #[0xd000000a,0xa0000000,0xa0000000,0xa0000000,0xa0000000,0xa0000000,0x70000000]
    let session : Session := ⟨refuses,some (.ofProgram refuses program),⟨[.programLoaded 7],none⟩⟩
    let start := { ofSession session "" with slice := 20 }
    let t := start.pump.act (.draw 6)
    start.AtEnd [.pump] ∧ start.pump.Undisturbed [.draw 6] ∧
    t.log.lines.getLast? = some "*** HALTED ***" ∧
    (t.settleScroll 4).window 4 = ["",""] ∧
    ¬ t.ShowsEnd 4 := by
  intro refuses program session start t
  have hend : start.AtEnd [.pump] := by
    refine .inr ⟨[],.pump,rfl,?_⟩
    simp only [Returns, List.foldl_nil, start, session, program]
    cbv
  have hlast : t.log.lines.getLast? = some "*** HALTED ***" := by
    simp only [t, start, session, program]
    cbv
  have hwindow : (t.settleScroll 4).window 4 = ["",""] := by
    simp only [t, start, session, program]
    cbv
  refine ⟨hend,undisturbed_concat.mpr ⟨not_occurs_nil,id,by simp⟩,hlast,hwindow,?_⟩
  rintro ⟨_,heq⟩
  rw [hwindow] at heq
  rw [← heq] at hlast
  simp at hlast

end Terminal
end UniversalMachine
