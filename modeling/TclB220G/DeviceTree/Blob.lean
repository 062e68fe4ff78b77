import TclB220G.Lib.BigEndian
import TclB220G.Lib.Dict

/-!
# Flattened device trees

A device tree comes as one byte string: a header, a block of tokens for the nodes and their properties, and
a block of strings for the names of properties.  The audit of a tree reads the tokens in one loop, with the
paths of the open nodes on a stack, into a dictionary of nodes by path.

Python strings are kept as their UTF-8 octets.  Which octets can be decoded is left open.
-/

namespace TclB220G.DeviceTree

open Lib Lib.Bytes

abbrev Name := Bytes
abbrev Path := Bytes
abbrev Props := List (Name × Bytes)
abbrev Nodes := List (Path × Props)

def slash : UInt8 := 0x2F

/-! ## The loop -/

/-- The word at a position, which must be inside. -/
def readWord (blob : Bytes) (pos : ℕ) : Option ℕ :=
  if pos + 4 ≤ blob.length then some (bigEndian blob 4 pos) else none

/-- The position of the first zero octet from a position on. -/
def indexZero (blob : Bytes) (pos : ℕ) : Option ℕ :=
  ((blob.drop pos).findIdx? (· = 0)).map (pos + ·)

/-- The next multiple of four. -/
def align (pos : ℕ) : ℕ := (pos + 3) / 4 * 4

variable (decodes : Bytes → Bool)

/-- A name at a position, with the position of the zero octet behind it. -/
def readName (blob : Bytes) (pos : ℕ) : Option (Name × ℕ) := do
  let stop ← indexZero blob pos
  let name := slice blob pos stop
  if decodes name then some (name, stop) else none

inductive Token where
  | beginNode (name : Name)
  | endNode
  | prop (name : Name) (value : Bytes)
  | nop
  | stop
  deriving DecidableEq, Repr

/-- Reads the token at a position, with the position of the next one. -/
def readToken (blob : Bytes) (strings pos : ℕ) : Option (Token × ℕ) := do
  let token ← readWord blob pos
  let pos := pos + 4
  if token = 1 then do
    let (name, stop) ← readName decodes blob pos
    pure (.beginNode name, align (stop + 1))
  else if token = 2 then pure (.endNode, pos)
  else if token = 3 then do
    let size ← readWord blob pos
    let off ← readWord blob (pos + 4)
    let pos := pos + 8
    let (name, _) ← readName decodes blob (strings + off)
    pure (.prop name (slice blob pos (pos + size)), align (pos + size))
  else if token = 4 then pure (.nop, pos)
  else if token = 9 then pure (.stop, pos)
  else none

/-- A path without the slashes at its end. -/
def rstrip (path : Path) : Path := (path.reverse.dropWhile (· = slash)).reverse

/-- The path of a new node below the open ones. -/
def childPath : List Path → Name → Path
  | [], name => slash :: name
  | top :: _, name => rstrip top ++ slash :: name

/-- What is known of the tree, and the paths of the open nodes with the innermost first. -/
structure Walk where
  nodes : Nodes
  stack : List Path
  deriving DecidableEq, Repr

/-- What a token does. -/
def Walk.apply (walk : Walk) : Token → Option Walk
  | .beginNode name =>
    let path := childPath walk.stack name
    some ⟨Dict.set walk.nodes path [], path :: walk.stack⟩
  | .endNode =>
    match walk.stack with
    | [] => none
    | _ :: stack => some ⟨walk.nodes, stack⟩
  | .prop name value =>
    match walk.stack with
    | [] => none
    | top :: _ =>
      (Dict.modify walk.nodes top fun props ↦ Dict.set props name value).map fun nodes ↦
        ⟨nodes, walk.stack⟩
  | .nop | .stop => some walk

/-- The loop over the tokens. -/
def readNodes (decodes : Bytes → Bool) (blob : Bytes) (strings : ℕ) : ℕ → ℕ → Walk → Option Nodes
  | 0, _, _ => none
  | fuel + 1, pos, walk => do
    let (token, next) ← readToken decodes blob strings pos
    if token = .stop then pure walk.nodes
    else do
      let walk ← walk.apply token
      readNodes decodes blob strings fuel next walk

def magic : ℕ := 0xd00dfeed

/-- Reads the header and the nodes.  Every round takes a word of the blob, so that its length is fuel
enough. -/
def parse (blob : Bytes) : Option Nodes :=
  if 40 ≤ blob.length ∧ bigEndian blob 4 0 = magic then
    readNodes decodes blob (bigEndian blob 4 12) blob.length (bigEndian blob 4 8) ⟨[], []⟩
  else none

theorem le_align (pos : ℕ) : pos ≤ align pos := by
  unfold align
  omega

section

variable {decodes : Bytes → Bool} {blob : Bytes} {strings pos : ℕ}

theorem le_of_readName {stop : ℕ} {name : Name} (h : readName decodes blob pos = some (name, stop)) :
    pos ≤ stop := by
  simp only [readName, indexZero, Option.bind_eq_bind, Option.bind_eq_some_iff, Option.map_eq_some_iff] at h
  obtain ⟨_, ⟨index, -, rfl⟩, hname⟩ := h
  split_ifs at hname
  obtain ⟨-, rfl⟩ := Prod.mk.inj (Option.some.inj hname)
  exact Nat.le_add_right pos index

/-- A token takes at least a word, which is inside of the blob. -/
theorem le_of_readToken {next : ℕ} {token : Token} (h : readToken decodes blob strings pos = some (token, next)) :
    pos + 4 ≤ blob.length ∧ pos + 4 ≤ next := by
  simp only [readToken, Option.bind_eq_bind, Option.bind_eq_some_iff] at h
  obtain ⟨word, hword, h⟩ := h
  rw [readWord, Option.ite_none_right_eq_some] at hword
  refine ⟨hword.1, ?_⟩
  split_ifs at h
  · obtain ⟨⟨name, stop⟩, hname, hnext⟩ := Option.bind_eq_some_iff.1 h
    obtain ⟨-, rfl⟩ := Prod.mk.inj (Option.some.inj hnext)
    exact (le_of_readName hname).trans ((Nat.le_succ stop).trans (le_align _))
  · exact (Prod.mk.inj (Option.some.inj h)).2.le
  · simp only [Option.bind_eq_some_iff] at h
    obtain ⟨size, -, off, -, name, -, hnext⟩ := h
    obtain ⟨-, rfl⟩ := Prod.mk.inj (Option.some.inj hnext)
    exact le_trans (by omega) (le_align _)
  · exact (Prod.mk.inj (Option.some.inj h)).2.le
  · exact (Prod.mk.inj (Option.some.inj h)).2.le

/-- More fuel than the rest of the blob makes no difference. -/
theorem readNodes_succ {fuel : ℕ} (hfuel : blob.length ≤ fuel + pos) (walk : Walk) :
    readNodes decodes blob strings (fuel + 1) pos walk = readNodes decodes blob strings fuel pos walk := by
  induction fuel generalizing pos walk with
  | zero =>
    rw [readNodes.eq_2, readNodes.eq_1]
    cases htoken : readToken decodes blob strings pos with
    | none => rfl
    | some result =>
      have hinside := (le_of_readToken htoken).1
      omega
  | succ fuel ih =>
    rw [readNodes, readNodes]
    cases htoken : readToken decodes blob strings pos with
    | none => rfl
    | some result =>
      have hnext := (le_of_readToken htoken).2
      simp only [Option.bind_eq_bind, Option.bind_some]
      congr 1
      congr 1
      funext next
      exact ih (by omega) next

end

/-! ## Encodings -/

def pad (bytes : Bytes) : Bytes := bytes ++ List.replicate (align bytes.length - bytes.length) 0

/-- The octets of a token.  The names of properties are given by their offsets in the block of strings. -/
def Token.encode (offset : Name → ℕ) : Token → Bytes
  | .beginNode name => ofBigWord 4 1 ++ pad (name ++ [0])
  | .endNode => ofBigWord 4 2
  | .prop name value => ofBigWord 4 3 ++ ofBigWord 4 value.length ++ ofBigWord 4 (offset name) ++ pad value
  | .nop => ofBigWord 4 4
  | .stop => ofBigWord 4 9

/-- A name stands in the blob, with a zero octet behind it. -/
def NameAt (blob : Bytes) (pos : ℕ) (name : Name) : Prop :=
  ∃ before after, blob = before ++ name ++ 0 :: after ∧ before.length = pos

/-- A token can be encoded in a blob with strings at a position. -/
def Token.Fits (offset : Name → ℕ) (blob : Bytes) (strings : ℕ) : Token → Prop
  | .beginNode name => (0 : UInt8) ∉ name ∧ decodes name = true
  | .prop name value =>
    (0 : UInt8) ∉ name ∧ decodes name = true ∧ value.length < 2 ^ 32 ∧ offset name < 2 ^ 32 ∧
      NameAt blob (strings + offset name) name
  | _ => True

section

theorem align_mod (pos : ℕ) : align pos % 4 = 0 := Nat.mul_mod_left ..

theorem align_add {base : ℕ} (hbase : base % 4 = 0) (pos : ℕ) : align (base + pos) = base + align pos := by
  unfold align
  omega

theorem length_pad (bytes : Bytes) : (pad bytes).length = align bytes.length := by
  rw [pad, List.length_append, List.length_replicate, Nat.add_sub_cancel' (le_align _)]

theorem length_encode_mod (offset : Name → ℕ) (token : Token) : (token.encode offset).length % 4 = 0 := by
  cases token with
  | beginNode name =>
    rw [Token.encode, List.length_append, length_ofBigWord, length_pad, Nat.add_mod, align_mod]
  | prop name value =>
    rw [Token.encode, List.length_append, List.length_append, List.length_append, length_ofBigWord,
      length_ofBigWord, length_ofBigWord, length_pad, Nat.add_mod, align_mod]
  | _ => rw [Token.encode, length_ofBigWord]

theorem readWord_eq {value : ℕ} (h : value < 2 ^ 32) {blob before after : Bytes} {pos : ℕ}
    (hblob : blob = before ++ ofBigWord 4 value ++ after) (hpos : before.length = pos) :
    readWord blob pos = some value := by
  subst hblob hpos
  rw [readWord, if_pos, bigEndian_ofBigWord (by norm_num at h ⊢; exact h)]
  rw [List.length_append, List.length_append, length_ofBigWord]
  exact Nat.le_add_right ..

theorem indexZero_append {name : Name} (hname : (0 : UInt8) ∉ name) (before after : Bytes) :
    indexZero (before ++ name ++ 0 :: after) before.length = some (before.length + name.length) := by
  have hfind : (name ++ 0 :: after).findIdx? (· = 0) = some name.length := by
    rw [List.findIdx?_append]
    have hnone : name.findIdx? (· = 0) = none := by
      rw [List.findIdx?_eq_none_iff]
      intro octet hoctet
      exact decide_eq_false fun hzero ↦ hname (hzero ▸ hoctet)
    simp [hnone, List.findIdx?_cons]
  rw [indexZero, List.append_assoc, List.drop_left, hfind, Option.map_some]

variable {decodes : Bytes → Bool} {offset : Name → ℕ} {strings : ℕ}

theorem readName_append {name : Name} (hname : (0 : UInt8) ∉ name) (hdecodes : decodes name = true)
    (before after : Bytes) :
    readName decodes (before ++ name ++ 0 :: after) before.length =
      some (name, before.length + name.length) := by
  have hslice := slice_append before name (0 :: after)
  rw [readName, indexZero_append hname, Option.bind_eq_bind, Option.bind_some, hslice, if_pos hdecodes]

theorem NameAt.readName {blob : Bytes} {pos : ℕ} {name : Name} (h : NameAt blob pos name)
    (hname : (0 : UInt8) ∉ name) (hdecodes : decodes name = true) :
    DeviceTree.readName decodes blob pos = some (name, pos + name.length) := by
  obtain ⟨before, after, rfl, rfl⟩ := h
  exact readName_append hname hdecodes before after

theorem readToken_beginNode {name : Name} (hname : (0 : UInt8) ∉ name) (hdecodes : decodes name = true)
    {before : Bytes} (hbefore : before.length % 4 = 0) (after : Bytes) :
    readToken decodes (before ++ Token.encode offset (.beginNode name) ++ after) strings before.length =
      some (.beginNode name, before.length + (Token.encode offset (.beginNode name)).length) := by
  have hword : readWord (before ++ Token.encode offset (.beginNode name) ++ after) before.length = some 1 :=
    readWord_eq (by decide) (by simp only [Token.encode, List.append_assoc]; rfl) rfl
  have hnext : (before ++ ofBigWord 4 1).length = before.length + 4 := by
    rw [List.length_append, length_ofBigWord]
  have hat : NameAt (before ++ Token.encode offset (.beginNode name) ++ after) (before.length + 4) name := by
    refine ⟨before ++ ofBigWord 4 1,
      List.replicate (align (name ++ [0]).length - (name ++ [0]).length) 0 ++ after,
      ?_, hnext⟩
    simp [Token.encode, pad]
  have halign : align (before.length + 4 + name.length + 1) =
      before.length + (Token.encode offset (.beginNode name)).length := by
    rw [Token.encode, List.length_append, length_ofBigWord, length_pad, List.length_append,
      List.length_singleton, ← Nat.add_assoc, ← align_add (by omega : (before.length + 4) % 4 = 0),
      Nat.add_assoc (before.length + 4)]
  rw [readToken, hword]
  simp only [Option.bind_eq_bind, Option.bind_some, if_pos]
  rw [hat.readName hname hdecodes]
  simp only [Option.bind_some, halign]
  rfl

theorem readToken_prop {name : Name} {value : Bytes} {blob : Bytes} (hname : (0 : UInt8) ∉ name)
    (hdecodes : decodes name = true) (hvalue : value.length < 2 ^ 32) (hoffset : offset name < 2 ^ 32)
    (hat : NameAt blob (strings + offset name) name) {before after : Bytes}
    (hblob : blob = before ++ Token.encode offset (.prop name value) ++ after)
    (hbefore : before.length % 4 = 0) :
    readToken decodes blob strings before.length =
      some (.prop name value, before.length + (Token.encode offset (.prop name value)).length) := by
  have hthree : (before ++ ofBigWord 4 3).length = before.length + 4 := by
    rw [List.length_append, length_ofBigWord]
  have hseven : (before ++ ofBigWord 4 3 ++ ofBigWord 4 value.length).length = before.length + 4 + 4 := by
    rw [List.length_append, hthree, length_ofBigWord]
  have heleven : (before ++ ofBigWord 4 3 ++ ofBigWord 4 value.length ++ ofBigWord 4 (offset name)).length =
      before.length + 4 + 8 := by
    rw [List.length_append, hseven, length_ofBigWord]
  simp only [Token.encode, pad, List.append_assoc] at hblob
  have hword : readWord blob before.length = some 3 :=
    readWord_eq (by decide) (hblob.trans (by simp only [List.append_assoc]; rfl)) rfl
  have hsize : readWord blob (before.length + 4) = some value.length :=
    readWord_eq hvalue (hblob.trans (by simp only [List.append_assoc]; rfl)) hthree
  have hoff : readWord blob (before.length + 4 + 4) = some (offset name) :=
    readWord_eq hoffset (hblob.trans (by simp only [List.append_assoc]; rfl)) hseven
  have hslice : slice blob (before.length + 4 + 8) (before.length + 4 + 8 + value.length) = value := by
    have hmiddle := slice_append
      (before ++ ofBigWord 4 3 ++ ofBigWord 4 value.length ++ ofBigWord 4 (offset name)) value
      (List.replicate (align value.length - value.length) 0 ++ after)
    rw [heleven] at hmiddle
    rw [hblob]
    simpa only [List.append_assoc] using hmiddle
  have halign : align (before.length + 4 + 8 + value.length) =
      before.length + (Token.encode offset (.prop name value)).length := by
    rw [Token.encode, List.length_append, List.length_append, List.length_append, length_ofBigWord,
      length_ofBigWord, length_ofBigWord, length_pad,
      align_add (by omega : (before.length + 4 + 8) % 4 = 0)]
    omega
  rw [readToken, hword]
  simp only [Option.bind_eq_bind, Option.bind_some, if_neg (by decide : ¬3 = 1), if_neg (by decide : ¬3 = 2),
    if_pos]
  rw [hsize, hoff]
  simp only [Option.bind_some]
  rw [hat.readName hname hdecodes]
  simp only [Option.bind_some, hslice, halign]
  rfl

/-- A token reads back, whatever stands around it. -/
theorem readToken_encode (token : Token) {blob before after : Bytes}
    (hfits : token.Fits decodes offset blob strings) (hblob : blob = before ++ token.encode offset ++ after)
    (hbefore : before.length % 4 = 0) :
    readToken decodes blob strings before.length =
      some (token, before.length + (token.encode offset).length) := by
  have hword {code : ℕ} (hcode : code < 2 ^ 32) (hencode : token.encode offset = ofBigWord 4 code) :
      readWord blob before.length = some code := readWord_eq hcode (hencode ▸ hblob) rfl
  cases token with
  | beginNode name =>
    rw [hblob]
    exact readToken_beginNode hfits.1 hfits.2 hbefore after
  | prop name value =>
    obtain ⟨hname, hdecodes, hvalue, hoffset, hat⟩ := hfits
    exact readToken_prop hname hdecodes hvalue hoffset hat hblob hbefore
  | endNode =>
    rw [readToken, hword (by decide) rfl, Token.encode, length_ofBigWord]
    rfl
  | nop =>
    rw [readToken, hword (by decide) rfl, Token.encode, length_ofBigWord]
    rfl
  | stop =>
    rw [readToken, hword (by decide) rfl, Token.encode, length_ofBigWord]
    rfl

/-- The octets of tokens one after another. -/
def encodeAll (offset : Name → ℕ) (tokens : List Token) : Bytes := tokens.flatMap (Token.encode offset)

/-- What tokens do one after another. -/
def Walk.applyAll (walk : Walk) (tokens : List Token) : Option Walk := tokens.foldlM Walk.apply walk

theorem Walk.applyAll_cons (walk : Walk) (token : Token) (tokens : List Token) :
    walk.applyAll (token :: tokens) = (walk.apply token).bind fun walk ↦ walk.applyAll tokens :=
  List.foldlM_cons ..

/-- The loop does what the tokens do, up to the one that ends it. -/
theorem readNodes_encode {blob : Bytes} {tokens : List Token} (hstop : Token.stop ∉ tokens)
    (hfits : ∀ token ∈ tokens, token.Fits decodes offset blob strings) {before after : Bytes}
    (hblob : blob = before ++ (encodeAll offset tokens ++ Token.encode offset .stop) ++ after)
    (hbefore : before.length % 4 = 0) {fuel : ℕ} (hfuel : tokens.length < fuel) (walk : Walk) :
    readNodes decodes blob strings fuel before.length walk = (walk.applyAll tokens).map Walk.nodes := by
  induction tokens generalizing before fuel walk with
  | nil =>
    obtain ⟨fuel, rfl⟩ := Nat.exists_eq_succ_of_ne_zero (Nat.ne_of_gt hfuel)
    have htoken : readToken decodes blob strings before.length =
        some (.stop, before.length + (Token.encode offset .stop).length) :=
      readToken_encode .stop trivial hblob hbefore
    rw [readNodes, htoken]
    rfl
  | cons token tokens ih =>
    obtain ⟨fuel, rfl⟩ := Nat.exists_eq_succ_of_ne_zero (Nat.ne_of_gt (Nat.lt_of_le_of_lt (Nat.zero_le _) hfuel))
    rw [List.mem_cons, not_or] at hstop
    rw [List.forall_mem_cons] at hfits
    rw [encodeAll, List.flatMap_cons] at hblob
    have hfirst : blob = before ++ token.encode offset ++
        (encodeAll offset tokens ++ Token.encode offset .stop ++ after) := by
      rw [hblob]
      simp only [encodeAll, List.append_assoc]
    have hrest : blob = before ++ token.encode offset ++
        (encodeAll offset tokens ++ Token.encode offset .stop) ++ after := by
      rw [hblob]
      simp only [encodeAll, List.append_assoc]
    rw [readNodes, readToken_encode token hfits.1 hfirst hbefore, Walk.applyAll_cons]
    simp only [Option.bind_eq_bind, Option.bind_some, if_neg (Ne.symm hstop.1)]
    cases walk.apply token with
    | none => rfl
    | some next =>
      have hmod : (before ++ token.encode offset).length % 4 = 0 := by
        rw [List.length_append, Nat.add_mod, hbefore, length_encode_mod]
      have hnext := ih hstop.2 hfits.2 hrest hmod (Nat.lt_of_succ_lt_succ hfuel) next
      rw [List.length_append] at hnext
      exact hnext

end

/-! ## Trees -/

/-- The nodes below a node: the first with its properties and what is below it, and the others. -/
inductive Forest where
  | nil
  | node (name : Name) (props : Props) (children siblings : Forest)

namespace Forest

def names : Forest → List Name
  | nil => []
  | node name _ _ siblings => name :: siblings.names

def tokens : Forest → List Token
  | nil => []
  | node name props children siblings =>
    .beginNode name :: (props.map (fun prop ↦ .prop prop.1 prop.2) ++
      (children.tokens ++ .endNode :: siblings.tokens))

/-- The nodes of a forest below a path, parents first. -/
def nodes : Forest → Path → Nodes
  | nil, _ => []
  | node name props children siblings, path =>
    let child := rstrip path ++ slash :: name
    (child, props) :: (children.nodes child ++ siblings.nodes path)

/-- Names are not empty and have no slash, and no two nodes or properties side by side have the same one. -/
def WellFormed : Forest → Prop
  | nil => True
  | node name props children siblings =>
    (name ≠ [] ∧ slash ∉ name ∧ name ∉ siblings.names ∧ (Dict.keys props).Nodup) ∧
      children.WellFormed ∧ siblings.WellFormed

end Forest

/-- A key is that of a node at a path, or of one below it. -/
def Under (path key : Path) : Prop := key = path ∨ path ++ [slash] <+: key

theorem rstrip_append {name : Name} (hne : name ≠ []) (hslash : slash ∉ name) (path : Path) :
    rstrip (path ++ name) = path ++ name := by
  rw [rstrip, List.reverse_append]
  cases hreverse : name.reverse with
  | nil => exact absurd (List.reverse_eq_nil_iff.1 hreverse) hne
  | cons last rest =>
    have hlast : last ≠ slash := by
      rintro rfl
      exact hslash (List.mem_reverse.1 (hreverse ▸ List.mem_cons_self))
    rw [List.cons_append, List.dropWhile_cons_of_neg (by simpa using hlast), ← List.cons_append, ← hreverse,
      ← List.reverse_append, List.reverse_reverse]

theorem rstrip_child {name : Name} (hne : name ≠ []) (hslash : slash ∉ name) (base : Path) :
    rstrip (base ++ slash :: name) = base ++ slash :: name := by
  have h := rstrip_append hne hslash (base ++ [slash])
  rwa [List.append_assoc] at h

/-- Two names without a slash that begin the same path are the same. -/
theorem eq_of_begins {first second : Name} {key : Path} (hfirst : slash ∉ first) (hsecond : slash ∉ second)
    (h : first ++ [slash] <+: key) (h' : second ++ [slash] <+: key) : first = second := by
  have htake {name : Name} (hname : slash ∉ name) (hbegins : name ++ [slash] <+: key) :
      key.takeWhile (· ≠ slash) = name := by
    obtain ⟨rest, rfl⟩ := hbegins
    rw [List.append_assoc, List.takeWhile_append_of_pos]
    · simp
    · intro octet hoctet
      exact decide_eq_true fun heq ↦ hname (heq ▸ hoctet)
  exact (htake hfirst h).symm.trans (htake hsecond h')

theorem under_append_iff {base : Path} {name rest : Bytes} :
    Under (base ++ slash :: name) (base ++ slash :: rest) ↔ Under name rest := by
  rw [Under, Under, List.append_right_inj, List.cons_inj_right, List.append_assoc,
    List.prefix_append_right_inj, List.cons_append, List.cons_prefix_cons, and_iff_right rfl]

theorem Under.below {base : Path} {name : Bytes} {key : Path} (h : Under (base ++ slash :: name) key) :
    base ++ [slash] <+: key := by
  rcases h with rfl | ⟨rest, rfl⟩
  · exact ⟨name, by simp⟩
  · exact ⟨name ++ slash :: rest, by simp⟩

/-- No key is that of a node below each of two nodes side by side. -/
theorem Under.not_sibling {base : Path} {name other : Name} {key : Path} (hname : slash ∉ name)
    (hother : slash ∉ other) (hne : name ≠ other) (h : Under (base ++ slash :: name) key) :
    ¬Under (base ++ slash :: other) key := by
  obtain ⟨rest, hrest⟩ := h.below
  have hkey : key = base ++ slash :: rest := by rw [← hrest, List.append_assoc]; rfl
  rw [hkey, under_append_iff] at h ⊢
  have hmem {first : Name} (hbegins : first ++ [slash] <+: rest) : slash ∈ rest :=
    hbegins.subset (List.mem_append_right first List.mem_cons_self)
  rcases h with rfl | hbegins
  · rintro (rfl | hbegins)
    · exact hne rfl
    · exact hname (hmem hbegins)
  · rintro (rfl | hbegins')
    · exact hother (hmem hbegins)
    · exact hne (eq_of_begins hname hother hbegins hbegins')

namespace Forest

theorem WellFormed.name {forest : Forest} (hforest : forest.WellFormed) {name : Name}
    (hname : name ∈ forest.names) : name ≠ [] ∧ slash ∉ name := by
  induction forest with
  | nil => exact absurd hname List.not_mem_nil
  | node first props children siblings _ ih =>
    rcases List.mem_cons.1 hname with rfl | hname
    · exact ⟨hforest.1.1, hforest.1.2.1⟩
    · exact ih hforest.2.2 hname

/-- The keys of a forest are those of its nodes and of what is below them. -/
theorem exists_under {forest : Forest} (hforest : forest.WellFormed) {path key : Path}
    (hkey : key ∈ Dict.keys (forest.nodes path)) :
    ∃ name ∈ forest.names, slash ∉ name ∧ Under (rstrip path ++ slash :: name) key := by
  induction forest generalizing path with
  | nil => exact absurd hkey List.not_mem_nil
  | node name props children siblings ihchildren ihsiblings =>
    obtain ⟨⟨hne, hslash, -, -⟩, hchildren, hsiblings⟩ := hforest
    rw [nodes, Dict.keys, List.map_cons, List.map_append, List.mem_cons, List.mem_append] at hkey
    rcases hkey with rfl | hkey | hkey
    · exact ⟨name, List.mem_cons_self, hslash, .inl rfl⟩
    · obtain ⟨child, -, -, hunder⟩ := ihchildren hchildren hkey
      rw [rstrip_child hne hslash] at hunder
      exact ⟨name, List.mem_cons_self, hslash, .inr hunder.below⟩
    · obtain ⟨other, hother, hslash', hunder⟩ := ihsiblings hsiblings hkey
      exact ⟨other, List.mem_cons_of_mem name hother, hslash', hunder⟩

end Forest

/-- No node is known yet of those that a forest adds below a path. -/
def Fresh (known : Nodes) (path : Path) (forest : Forest) : Prop :=
  ∀ key ∈ Dict.keys known, ∀ name ∈ forest.names, ¬Under (rstrip path ++ slash :: name) key

theorem applyAll_props {known : Nodes} {path : Path} (hpath : path ∉ Dict.keys known) (stack : List Path)
    {done props : Props} (hnodup : (Dict.keys (done ++ props)).Nodup) (tokens : List Token) :
    Walk.applyAll ⟨known ++ [(path, done)], path :: stack⟩
        (props.map (fun prop ↦ .prop prop.1 prop.2) ++ tokens) =
      Walk.applyAll ⟨known ++ [(path, done ++ props)], path :: stack⟩ tokens := by
  induction props generalizing done with
  | nil => rw [List.append_nil]; rfl
  | cons prop props ih =>
    have hnew : prop.1 ∉ Dict.keys done := by
      intro hmem
      rw [Dict.keys, List.map_append, List.map_cons, List.nodup_append] at hnodup
      exact hnodup.2.2 prop.1 hmem prop.1 List.mem_cons_self rfl
    have hgroup : done ++ prop :: props = done ++ [prop] ++ props := by rw [List.append_assoc]; rfl
    rw [hgroup] at hnodup ⊢
    rw [List.map_cons, List.cons_append, Walk.applyAll_cons, Walk.apply]
    simp only [Dict.modify_append hpath, Dict.set_of_not_mem hnew, Option.map_some, Option.bind_some]
    exact ih hnodup

theorem Fresh.of_append {known later : Nodes} {path : Path} {forest : Forest} (hknown : Fresh known path forest)
    (hlater : Fresh later path forest) : Fresh (known ++ later) path forest := by
  intro key hkey
  rw [Dict.keys, List.map_append, List.mem_append] at hkey
  exact hkey.elim (hknown key) (hlater key)

section

variable {known : Nodes} {path : Path} {name : Name} {props : Props} {children siblings : Forest}

/-- What is fresh for a node is fresh for what is below it. -/
theorem Fresh.below (hne : name ≠ []) (hslash : slash ∉ name)
    (h : Fresh known path (.node name props children siblings)) :
    Fresh (known ++ [(rstrip path ++ slash :: name, props)]) (rstrip path ++ slash :: name) children := by
  apply Fresh.of_append
  · intro key hkey child _ hunder
    rw [rstrip_child hne hslash] at hunder
    exact h key hkey name List.mem_cons_self (.inr hunder.below)
  · intro key hkey child _ hunder
    rw [rstrip_child hne hslash] at hunder
    obtain rfl : key = rstrip path ++ slash :: name := List.mem_singleton.1 hkey
    have hlength := hunder.below.length_le
    rw [List.length_append, List.length_singleton] at hlength
    exact absurd hlength (Nat.not_succ_le_self _)

/-- A node and what is below it are fresh for the nodes beside it. -/
theorem Fresh.beside (hforest : (Forest.node name props children siblings).WellFormed)
    (h : Fresh known path (.node name props children siblings)) :
    Fresh (known ++ [(rstrip path ++ slash :: name, props)] ++ children.nodes (rstrip path ++ slash :: name)) path
      siblings := by
  obtain ⟨⟨hne, hslash, hname, -⟩, hchildren, hsiblings⟩ := hforest
  have hnot {key : Path} (hunder : Under (rstrip path ++ slash :: name) key) {other : Name}
      (hother : other ∈ siblings.names) : ¬Under (rstrip path ++ slash :: other) key := by
    have hdiffer : name ≠ other := fun heq ↦ hname (heq ▸ hother)
    exact hunder.not_sibling hslash (hsiblings.name hother).2 hdiffer
  refine Fresh.of_append (Fresh.of_append ?_ ?_) ?_
  · intro key hkey other hother
    exact h key hkey other (List.mem_cons_of_mem name hother)
  · intro key hkey other hother
    obtain rfl : key = rstrip path ++ slash :: name := List.mem_singleton.1 hkey
    exact hnot (.inl rfl) hother
  · intro key hkey other hother
    obtain ⟨child, -, -, hunder⟩ := Forest.exists_under hchildren hkey
    rw [rstrip_child hne hslash] at hunder
    exact hnot (.inr hunder.below) hother

end

theorem applyAll_tokens {forest : Forest} (hforest : forest.WellFormed) {known : Nodes} {path : Path}
    (hfresh : Fresh known path forest) (stack : List Path) (tokens : List Token) :
    Walk.applyAll ⟨known, path :: stack⟩ (forest.tokens ++ tokens) =
      Walk.applyAll ⟨known ++ forest.nodes path, path :: stack⟩ tokens := by
  induction forest generalizing known path stack tokens with
  | nil => rw [Forest.nodes, List.append_nil]; rfl
  | node name props children siblings ihchildren ihsiblings =>
    obtain ⟨⟨hne, hslash, -, hprops⟩, hchildren, hsiblings⟩ := id hforest
    have hnew : rstrip path ++ slash :: name ∉ Dict.keys known := fun hmem ↦
      hfresh _ hmem name List.mem_cons_self (.inl rfl)
    have hbegin : Walk.apply ⟨known, path :: stack⟩ (.beginNode name) =
        some ⟨known ++ [(rstrip path ++ slash :: name, [])],
          (rstrip path ++ slash :: name) :: path :: stack⟩ := by
      rw [Walk.apply]
      simp only [childPath, Dict.set_of_not_mem hnew]
    have hkeys : (Dict.keys ([] ++ props)).Nodup := hprops
    calc
      _ = Walk.applyAll ⟨known ++ [(rstrip path ++ slash :: name, [])],
            (rstrip path ++ slash :: name) :: path :: stack⟩
          (props.map (fun prop ↦ .prop prop.1 prop.2) ++
            (children.tokens ++ .endNode :: (siblings.tokens ++ tokens))) := by
        rw [Forest.tokens, List.cons_append, Walk.applyAll_cons, hbegin, Option.bind_some]
        simp only [List.append_assoc, List.cons_append]
      _ = Walk.applyAll ⟨known ++ [(rstrip path ++ slash :: name, props)],
            (rstrip path ++ slash :: name) :: path :: stack⟩
          (children.tokens ++ .endNode :: (siblings.tokens ++ tokens)) :=
        applyAll_props hnew (path :: stack) hkeys _
      _ = Walk.applyAll ⟨known ++ [(rstrip path ++ slash :: name, props)] ++
            children.nodes (rstrip path ++ slash :: name), path :: stack⟩ (siblings.tokens ++ tokens) := by
        rw [ihchildren hchildren (hfresh.below hne hslash), Walk.applyAll_cons]
        rfl
      _ = _ := by
        rw [ihsiblings hsiblings (hfresh.beside hforest), Forest.nodes]
        simp only [List.append_assoc, List.cons_append, List.nil_append]

/-- The tokens of a tree, whose root has no name. -/
def treeTokens (props : Props) (children : Forest) : List Token :=
  .beginNode [] :: (props.map (fun prop ↦ .prop prop.1 prop.2) ++ (children.tokens ++ [.endNode]))

/-- The nodes of a tree, parents first. -/
def treeNodes (props : Props) (children : Forest) : Nodes := ([slash], props) :: children.nodes [slash]

theorem applyAll_filter (walk : Walk) (tokens : List Token) :
    walk.applyAll (tokens.filter (· ≠ .nop)) = walk.applyAll tokens := by
  induction tokens generalizing walk with
  | nil => rfl
  | cons token tokens ih =>
    by_cases hnop : token = .nop
    · subst hnop
      rw [List.filter_cons_of_neg (by simp), ih]
      rfl
    · rw [List.filter_cons_of_pos (by simpa using hnop), Walk.applyAll_cons, Walk.applyAll_cons]
      congr 1
      funext next
      exact ih next

theorem applyAll_treeTokens {props : Props} {children : Forest} (hprops : (Dict.keys props).Nodup)
    (hchildren : children.WellFormed) :
    Walk.applyAll ⟨[], []⟩ (treeTokens props children) = some ⟨treeNodes props children, []⟩ := by
  have hkeys : (Dict.keys ([] ++ props)).Nodup := hprops
  have hfresh : Fresh ([] ++ [([slash], props)]) [slash] children := by
    intro key hkey name hname hunder
    obtain rfl : key = [slash] := List.mem_singleton.1 hkey
    rcases hunder with heq | hbegins
    · exact (hchildren.name hname).1 (List.cons.inj heq).2.symm
    · have hlength := hbegins.length_le
      simp [rstrip] at hlength
  calc
    _ = Walk.applyAll ⟨[] ++ [([slash], [])], [[slash]]⟩
        (props.map (fun prop ↦ .prop prop.1 prop.2) ++ (children.tokens ++ [.endNode])) := rfl
    _ = Walk.applyAll ⟨[] ++ [([slash], props)], [[slash]]⟩ (children.tokens ++ [.endNode]) :=
      applyAll_props List.not_mem_nil [] hkeys _
    _ = Walk.applyAll ⟨[] ++ [([slash], props)] ++ children.nodes [slash], [[slash]]⟩ [.endNode] :=
      applyAll_tokens hchildren hfresh [] _
    _ = _ := rfl

theorem stop_notMem_tokens (forest : Forest) : Token.stop ∉ forest.tokens := by
  induction forest with
  | nil => exact List.not_mem_nil
  | node name props children siblings ihchildren ihsiblings => simp [Forest.tokens, ihchildren, ihsiblings]

theorem length_le_encodeAll (offset : Name → ℕ) (tokens : List Token) :
    tokens.length ≤ (encodeAll offset tokens).length := by
  induction tokens with
  | nil => exact Nat.le_refl _
  | cons token tokens ih =>
    have htoken : 1 ≤ (token.encode offset).length := by
      cases token <;> simp [Token.encode] <;> omega
    rw [encodeAll, List.flatMap_cons, List.length_append, List.length_cons, Nat.add_comm]
    exact Nat.add_le_add htoken ih

/-- A blob with the tokens of a tree, however they are interspersed with those that do nothing, is read as
the nodes of the tree. -/
theorem parse_encode {decodes : Bytes → Bool} {offset : Name → ℕ} {props : Props} {children : Forest}
    (hprops : (Dict.keys props).Nodup) (hchildren : children.WellFormed) {tokens : List Token}
    (hnops : tokens.filter (· ≠ .nop) = treeTokens props children) {blob before after : Bytes}
    (hblob : blob = before ++ (encodeAll offset tokens ++ Token.encode offset .stop) ++ after)
    (hheader : 40 ≤ blob.length) (hmagic : bigEndian blob 4 0 = magic)
    (hstruct : before.length = bigEndian blob 4 8) (halign : before.length % 4 = 0)
    (hfits : ∀ token ∈ tokens, token.Fits decodes offset blob (bigEndian blob 4 12)) :
    parse decodes blob = some (treeNodes props children) := by
  have hstop : Token.stop ∉ tokens := by
    intro hmem
    have hfilter : Token.stop ∈ tokens.filter (· ≠ .nop) := List.mem_filter.2 ⟨hmem, rfl⟩
    rw [hnops] at hfilter
    simp [treeTokens, stop_notMem_tokens] at hfilter
  have hfuel : tokens.length < blob.length := by
    have hlength := length_le_encodeAll offset tokens
    rw [hblob, List.length_append, List.length_append, List.length_append, Token.encode, length_ofBigWord]
    omega
  rw [parse, if_pos ⟨hheader, hmagic⟩, ← hstruct, readNodes_encode hstop hfits hblob halign hfuel,
    ← applyAll_filter, hnops, applyAll_treeTokens hprops hchildren, Option.map_some]

/-- A tree with one node `a` below its root and with one property `b`, as a blob with its strings last. -/
def smallTokens : List Token := [.beginNode [], .nop, .beginNode [97], .prop [98] [1, 2], .endNode, .endNode]

def smallBlob : Bytes :=
  ofBigWord 4 magic ++ ofBigWord 4 90 ++ ofBigWord 4 40 ++ ofBigWord 4 88 ++ List.replicate 24 0 ++
    (encodeAll (fun _ ↦ 0) smallTokens ++ Token.encode (fun _ ↦ 0) .stop) ++ [98, 0]

theorem parse_encode_small :
    parse (fun _ ↦ true) smallBlob = some [([slash], []), ([slash, 97], [([98], [1, 2])])] := by
  have hfits : ∀ token ∈ smallTokens,
      token.Fits (fun _ ↦ true) (fun _ ↦ 0) smallBlob (bigEndian smallBlob 4 12) := by
    simp only [smallTokens, List.forall_mem_cons, Token.Fits]
    refine ⟨by decide, trivial, by decide, ⟨by decide, trivial, by decide, by decide, ?_⟩, trivial, trivial, ?_⟩
    · exact ⟨smallBlob.take 88, [], by decide, by decide⟩
    · exact List.forall_mem_nil _
  have hnops : smallTokens.filter (· ≠ .nop) = treeTokens [] (.node [97] [([98], [1, 2])] .nil .nil) := by
    decide
  have hblob : smallBlob = smallBlob.take 40 ++
      (encodeAll (fun _ ↦ 0) smallTokens ++ Token.encode (fun _ ↦ 0) .stop) ++ [98, 0] := by
    decide
  have hforest : (Forest.node [97] [([98], [1, 2])] .nil .nil).WellFormed :=
    ⟨⟨by decide, by decide, List.not_mem_nil, by decide⟩, trivial, trivial⟩
  have hprops : (Dict.keys ([] : Props)).Nodup := List.nodup_nil
  exact parse_encode hprops hforest hnops hblob (by decide) (by decide) (by decide) (by decide) hfits

end TclB220G.DeviceTree
