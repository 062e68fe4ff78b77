import Mathlib.Data.Fintype.Card
import Mathlib.Data.List.Forall2
import TclB220G.Kernel.Errno

/-!
# The interfaces of the stream manager

`q6asm_parse_dai_data` makes one interface for each child node of its device.  A child names one of the
sessions of the DSP, and the template of that session is changed as the child asks for.  A bitmap tells
the sessions that were named before, so that there are never more interfaces than sessions.
-/

namespace TclB220G.Audio

open Kernel Kernel.Errno

/-- What is used of `struct snd_soc_dai_driver`. -/
structure DaiDriver (Stream Ops Rest : Type) where
  playback : Stream
  capture : Stream
  ops : Ops
  rest : Rest

/-- The data of the driver: its templates, one for each session, the stream and the operations that a
child may ask for, and an interface in memory that was only allocated. -/
structure AsmTables (Stream Ops Rest : Type) where
  maxSessions : ℕ
  template : Fin maxSessions → DaiDriver Stream Ops Rest
  emptyStream : Stream
  q6asmDaiOps : Ops
  zeroed : DaiDriver Stream Ops Rest

/-- The properties of a child node, or the errors of reading them. -/
structure DaiNode where
  reg : Except Errno (BitVec 32)
  direction : Except Errno (BitVec 32)
  isCompressDai : Bool

/-- The value of `Q6ASM_DAI_TX`. -/
def q6asmDaiTx : BitVec 32 := 1

/-- The value of `Q6ASM_DAI_RX`. -/
def q6asmDaiRx : BitVec 32 := 2

section

variable {Stream Ops Rest : Type} (tables : AsmTables Stream Ops Rest)

/-- The bitmap, the number of interfaces written and the array of interfaces. -/
structure AsmParse where
  seen : Fin tables.maxSessions → Bool
  idx : ℕ
  dais : List (DaiDriver Stream Ops Rest)

/-- What a child does to the template of its session.  Without a direction nothing else is read. -/
def DaiNode.configure (node : DaiNode) (dai : DaiDriver Stream Ops Rest) : DaiDriver Stream Ops Rest :=
  match node.direction with
  | .error _ => dai
  | .ok dir =>
    let directed :=
      if dir = q6asmDaiRx then { dai with capture := tables.emptyStream }
      else if dir = q6asmDaiTx then { dai with playback := tables.emptyStream }
      else dai
    if node.isCompressDai then { directed with ops := tables.q6asmDaiOps } else directed

/-- Writes the next interface of the array, for a session that was not named before. -/
def AsmParse.write (state : AsmParse tables) (node : DaiNode) (id : Fin tables.maxSessions) :
    AsmParse tables where
  seen := Function.update state.seen id true
  idx := state.idx + 1
  dais := state.dais.set state.idx (node.configure tables (tables.template id))

/-- One pass of the loop over the children. -/
def parseChild (state : AsmParse tables) (node : DaiNode) : Except Errno (AsmParse tables) :=
  match node.reg with
  | .error errno => .error errno
  | .ok id =>
    if h : id.toNat < tables.maxSessions then
      if state.seen ⟨id.toNat, h⟩ then .error EINVAL
      else .ok (state.write tables node ⟨id.toNat, h⟩)
    else .error EINVAL

/-- The state before the loop. -/
def AsmParse.start (children : List DaiNode) : AsmParse tables :=
  ⟨fun _ ↦ false, 0, List.replicate children.length tables.zeroed⟩

def q6asmParseDaiData (allocates : Bool) (children : List DaiNode) :
    Except Errno (List (DaiDriver Stream Ops Rest)) :=
  if children.length = 0 then .error EINVAL
  else if !allocates then .error ENOMEM
  else do
    let state ← children.foldlM (parseChild tables) (.start tables children)
    return state.dais

/-! ## The sessions that the children name -/

/-- The child names a session. -/
def DaiNode.Names (node : DaiNode) (id : Fin tables.maxSessions) : Prop :=
  ∃ reg, node.reg = .ok reg ∧ reg.toNat = id

/-- The interface is the template of the session that the child names, but for what the child asks to
be otherwise. -/
def BuiltFrom (node : DaiNode) (dai : DaiDriver Stream Ops Rest) : Prop :=
  ∃ id, node.Names tables id ∧ dai.rest = (tables.template id).rest ∧
    dai.playback =
      (if node.direction = .ok q6asmDaiTx then tables.emptyStream else (tables.template id).playback) ∧
    dai.capture =
      (if node.direction = .ok q6asmDaiRx then tables.emptyStream else (tables.template id).capture) ∧
    dai.ops = if node.direction.isOk ∧ node.isCompressDai then tables.q6asmDaiOps
      else (tables.template id).ops

variable {tables} {node : DaiNode} {children : List DaiNode} {id : Fin tables.maxSessions}
  {ids : List (Fin tables.maxSessions)}

theorem builtFrom_configure (hnames : node.Names tables id) :
    BuiltFrom tables node (node.configure tables (tables.template id)) := by
  refine ⟨id, hnames, ?_⟩
  unfold DaiNode.configure
  cases node.direction with
  | error errno => simp [Except.isOk, Except.toBool]
  | ok dir =>
    have hdifferent : q6asmDaiTx ≠ q6asmDaiRx := by decide
    simp only [Except.isOk, Except.toBool, Except.ok.injEq]
    split_ifs <;> simp_all

theorem exists_names_iff :
    (∃ id, node.Names tables id) ↔ ∃ reg, node.reg = .ok reg ∧ reg.toNat < tables.maxSessions := by
  constructor
  · rintro ⟨id, reg, hreg, hid⟩
    exact ⟨reg, hreg, hid ▸ id.isLt⟩
  · rintro ⟨reg, hreg, hlt⟩
    exact ⟨⟨reg.toNat, hlt⟩, reg, hreg, rfl⟩

theorem DaiNode.Names.reg_eq_iff {other : DaiNode} {id' : Fin tables.maxSessions}
    (hnames : node.Names tables id) (hother : other.Names tables id') :
    node.reg = other.reg ↔ id = id' := by
  obtain ⟨reg, hreg, hid⟩ := hnames
  obtain ⟨reg', hreg', hid'⟩ := hother
  rw [hreg, hreg', Except.ok.injEq, ← BitVec.toNat_inj, hid, hid', Fin.val_inj]

theorem mem_iff_of_names (hchildren : List.Forall₂ (DaiNode.Names tables) children ids)
    (hnames : node.Names tables id) : id ∈ ids ↔ node.reg ∈ children.map DaiNode.reg := by
  induction hchildren with
  | nil => simp
  | cons hfirst _ ih => rw [List.map_cons, List.mem_cons, List.mem_cons, ih, hnames.reg_eq_iff hfirst]

theorem nodup_iff_of_names (hchildren : List.Forall₂ (DaiNode.Names tables) children ids) :
    ids.Nodup ↔ (children.map DaiNode.reg).Nodup := by
  induction hchildren with
  | nil => simp
  | cons hfirst hrest ih =>
    rw [List.map_cons, List.nodup_cons, List.nodup_cons, ih, mem_iff_of_names hrest hfirst]

theorem exists_forall₂_names_iff :
    (∃ ids, List.Forall₂ (DaiNode.Names tables) children ids) ↔
      ∀ node ∈ children, ∃ reg, node.reg = .ok reg ∧ reg.toNat < tables.maxSessions := by
  simp only [← exists_names_iff]
  induction children with
  | nil => simp
  | cons node children ih => simp [List.forall₂_cons_left_iff, ih]

/-! ## The loop -/

theorem parseChild_eq_ok_iff {state next : AsmParse tables} :
    parseChild tables state node = .ok next ↔
      ∃ id, node.Names tables id ∧ state.seen id = false ∧ next = state.write tables node id := by
  unfold parseChild
  constructor
  · intro h
    cases hreg : node.reg with
    | error errno => simp [hreg] at h
    | ok reg =>
      simp only [hreg] at h
      split_ifs at h with hlt hseen
      exact ⟨⟨reg.toNat, hlt⟩, ⟨reg, hreg, rfl⟩, by simpa using hseen, (Except.ok.inj h).symm⟩
  · rintro ⟨id, ⟨reg, hreg, hid⟩, hseen, rfl⟩
    have hlt : reg.toNat < tables.maxSessions := hid ▸ id.isLt
    obtain rfl : ⟨reg.toNat, hlt⟩ = id := Fin.ext hid
    simp [hreg, hlt, hseen]

/-- The children in order, each with its session. -/
def AsmParse.writeAll (state : AsmParse tables) (children : List DaiNode)
    (ids : List (Fin tables.maxSessions)) : AsmParse tables :=
  (children.zip ids).foldl (fun state entry ↦ state.write tables entry.1 entry.2) state

/-- After a child the bitmap tells its session too. -/
theorem unseen_write_iff {state : AsmParse tables} :
    (∀ other ∈ ids, (state.write tables node id).seen other = false) ↔
      id ∉ ids ∧ ∀ other ∈ ids, state.seen other = false := by
  have hseen : ∀ other, (state.write tables node id).seen other = false ↔
      other ≠ id ∧ state.seen other = false := by
    intro other
    change Function.update state.seen id true other = false ↔ _
    rw [Function.update_apply]
    split_ifs with hother
    · simp [hother]
    · simp [hother]
  simp only [hseen]
  constructor
  · exact fun h ↦ ⟨fun hmem ↦ (h id hmem).1 rfl, fun other hother ↦ (h other hother).2⟩
  · exact fun h other hother ↦ ⟨fun heq ↦ h.1 (heq ▸ hother), h.2 other hother⟩

/-- The loop goes through exactly if every child names a session that neither an earlier child has
named nor the bitmap tells. -/
theorem foldlM_parseChild_eq_ok_iff {state final : AsmParse tables} :
    children.foldlM (parseChild tables) state = .ok final ↔
      ∃ ids, List.Forall₂ (DaiNode.Names tables) children ids ∧ ids.Nodup ∧
        (∀ id ∈ ids, state.seen id = false) ∧ final = state.writeAll children ids := by
  induction children generalizing state with
  | nil =>
    rw [List.foldlM_nil]
    constructor
    · exact fun h ↦ ⟨[], .nil, List.nodup_nil, by simp, (Except.ok.inj h).symm⟩
    · rintro ⟨ids, hnil, -, -, rfl⟩
      cases hnil
      rfl
  | cons node children ih =>
    have hbind : (node :: children).foldlM (parseChild tables) state = .ok final ↔
        ∃ next, parseChild tables state node = .ok next ∧
          children.foldlM (parseChild tables) next = .ok final := by
      rw [List.foldlM_cons]
      cases parseChild tables state node with
      | error errno => simp [bind, Except.bind]
      | ok next => simp [bind, Except.bind]
    rw [hbind]
    simp only [parseChild_eq_ok_iff, ih]
    constructor
    · rintro ⟨_, ⟨id, hnames, hunseen, rfl⟩, ids, hchildren, hnodup, hseen, rfl⟩
      rw [unseen_write_iff] at hseen
      exact ⟨id :: ids, .cons hnames hchildren, List.nodup_cons.2 ⟨hseen.1, hnodup⟩,
        List.forall_mem_cons.2 ⟨hunseen, hseen.2⟩, rfl⟩
    · rintro ⟨ids, hall, hnodup, hseen, rfl⟩
      obtain ⟨id, rest, hnames, hchildren, rfl⟩ := List.forall₂_cons_left_iff.1 hall
      rw [List.nodup_cons] at hnodup
      rw [List.forall_mem_cons] at hseen
      exact ⟨_, ⟨id, hnames, hseen.1, rfl⟩, rest, hchildren, hnodup.2,
        unseen_write_iff.2 ⟨hnodup.1, hseen.2⟩, rfl⟩

/-- Each pass writes the place after those written before. -/
theorem dais_writeAll (hchildren : List.Forall₂ (DaiNode.Names tables) children ids)
    {state : AsmParse tables} (hlength : state.dais.length = state.idx + children.length) :
    ∃ built, (state.writeAll children ids).dais = state.dais.take state.idx ++ built ∧
      List.Forall₂ (BuiltFrom tables) children built := by
  induction hchildren generalizing state with
  | nil =>
    refine ⟨[], ?_, .nil⟩
    rw [List.append_nil, List.take_of_length_le (by simpa using hlength.le)]
    rfl
  | @cons node id children ids hnames _ ih =>
    have hlt : state.idx < state.dais.length := by
      rw [hlength, List.length_cons]
      omega
    have hnext : (state.write tables node id).dais.length =
        (state.write tables node id).idx + children.length := by
      simp only [AsmParse.write, List.length_set, hlength, List.length_cons]
      omega
    obtain ⟨built, hdais, hbuilt⟩ := ih hnext
    refine ⟨node.configure tables (tables.template id) :: built, ?_,
      .cons (builtFrom_configure hnames) hbuilt⟩
    calc (state.writeAll (node :: children) (id :: ids)).dais
        = (state.write tables node id).dais.take (state.idx + 1) ++ built := hdais
      _ = state.dais.take state.idx ++ node.configure tables (tables.template id) :: built := by
        rw [AsmParse.write, List.take_add_one, List.take_set_of_le le_rfl,
          List.getElem?_set_self hlt]
        simp

theorem q6asmParseDaiData_eq_ok_iff {dais : List (DaiDriver Stream Ops Rest)} :
    q6asmParseDaiData tables true children = .ok dais ↔
      children ≠ [] ∧ ∃ ids, List.Forall₂ (DaiNode.Names tables) children ids ∧ ids.Nodup ∧
        dais = ((AsmParse.start tables children).writeAll children ids).dais := by
  by_cases hnil : children = []
  · simp [q6asmParseDaiData, hnil]
  have hloop : q6asmParseDaiData tables true children = .ok dais ↔
      ∃ final, children.foldlM (parseChild tables) (.start tables children) = .ok final ∧
        dais = final.dais := by
    rw [q6asmParseDaiData, if_neg (by simpa using hnil), if_neg (by simp)]
    cases children.foldlM (parseChild tables) (.start tables children) with
    | error errno => simp [bind, Except.bind]
    | ok final => simp [bind, Except.bind, pure, Except.pure, eq_comm]
  rw [hloop]
  simp only [foldlM_parseChild_eq_ok_iff]
  constructor
  · rintro ⟨_, ⟨ids, hnames, hnodup, -, rfl⟩, rfl⟩
    exact ⟨hnil, ids, hnames, hnodup, rfl⟩
  · rintro ⟨-, ids, hnames, hnodup, rfl⟩
    exact ⟨_, ⟨ids, hnames, hnodup, fun _ _ ↦ rfl, rfl⟩, rfl⟩

/-- **The interfaces of the stream manager.** With its memory allocated, the parse succeeds exactly if
there is a child and all children name sessions, each its own.  There is then one interface for each
child, in their order, and no more than there are sessions. -/
theorem q6asmParseDaiData_spec (tables : AsmTables Stream Ops Rest) (children : List DaiNode) :
    ((∃ dais, q6asmParseDaiData tables true children = .ok dais) ↔
      children ≠ [] ∧
        (∀ node ∈ children, ∃ reg, node.reg = .ok reg ∧ reg.toNat < tables.maxSessions) ∧
        (children.map DaiNode.reg).Nodup) ∧
    ∀ dais, q6asmParseDaiData tables true children = .ok dais →
      List.Forall₂ (BuiltFrom tables) children dais ∧ dais.length ≤ tables.maxSessions := by
  simp only [q6asmParseDaiData_eq_ok_iff]
  constructor
  · rw [← exists_forall₂_names_iff]
    constructor
    · rintro ⟨_, hnonempty, ids, hnames, hnodup, -⟩
      exact ⟨hnonempty, ⟨ids, hnames⟩, (nodup_iff_of_names hnames).1 hnodup⟩
    · rintro ⟨hnonempty, ⟨ids, hnames⟩, hnodup⟩
      exact ⟨_, hnonempty, ids, hnames, (nodup_iff_of_names hnames).2 hnodup, rfl⟩
  · rintro dais ⟨-, ids, hnames, hnodup, rfl⟩
    have hlength : (AsmParse.start tables children).dais.length =
        (AsmParse.start tables children).idx + children.length := by
      simp [AsmParse.start]
    obtain ⟨built, hdais, hbuilt⟩ := dais_writeAll hnames hlength
    rw [hdais, AsmParse.start, List.take_zero, List.nil_append]
    refine ⟨hbuilt, ?_⟩
    calc built.length = children.length := hbuilt.length_eq.symm
      _ = ids.length := hnames.length_eq
      _ ≤ Fintype.card (Fin tables.maxSessions) := hnodup.length_le_card
      _ = tables.maxSessions := Fintype.card_fin _

end

end TclB220G.Audio
