import Playback.Proofs.Command.Groups
import Playback.Proofs.Command.Reading

/-!
# Groups tile their line

The groups of a line are the parts of a layout whose text is the line, so each of them is the text
at its place. The gate, the source and the action lie in no other group; one begins where the one
before it ends, and together they are the line. Every other group lies in the one that it belongs
to.
-/

namespace Playback

open Layout

/-! ## Groups and their owners -/

/-- The group that a group belongs to, unless it is one of the outermost. -/
def GroupName.owner? : GroupName → Option GroupName
  | .gate | .exchange | .variable | .uses | .action | .other _ => none
  | .gateOptional | .gateTrue | .gateFalse => some .gate
  | .request | .response | .head | .headKey | .body | .exchangeMatch => some .exchange
  | .variableChapter | .variableBounds | .variableUp | .variableName | .variableMatch =>
    some .variable
  | .usesChapter | .usesCondition => some .uses
  | .literal | .target => some .action
  | .targetChapter | .targetBounds | .targetName | .tellMatched | .tellCount | .tellPassed
  | .spreadAll | .spreadLast => some .target
  | .spreadIndex => some .spreadAll

/-- The three kinds of source. -/
def sourceKinds : List GroupName :=
  [.exchange, .variable, .uses]

namespace Groups

/-- The groups that belong to no other one. -/
def outermost (groups : Groups) : Groups :=
  groups.filter fun g => g.name.owner?.isNone

/-- Groups of which each starts where the one before it ends, from one place up to another. -/
def Tile (start stop : Nat) : Groups → Prop
  | [] => start = stop
  | g :: rest => g.start = start ∧ Tile g.stop stop rest

/-- The groups are those of a line that they tile. -/
structure TileLine (groups : Groups) (line : String) : Prop where
  /-- They come in the order of the grammar. -/
  ordered : (groups.map (·.name)).Sublist (GroupName.labels.map (·.1))
  /-- No two of them have the same name. -/
  distinct : (groups.map (·.name)).Nodup
  /-- Each is the text of the line at its place, which is counted in bytes of UTF-8. -/
  placed : ∀ g ∈ groups, g.start ≤ g.stop ∧ g.stop ≤ line.utf8ByteSize ∧
    line.toUTF8.extract g.start g.stop = g.value.toUTF8
  /-- The outermost groups are a gate if there is one, exactly one source, and an action if there is
  one. They lie side by side from the start of the line to its end, and their texts are the line. -/
  tiled : ∃ (gate : Option Group) (source : Group) (action : Option Group),
    groups.outermost = gate.toList ++ source :: action.toList ∧
      (∀ g ∈ gate, g.name = .gate) ∧ source.name ∈ sourceKinds ∧
      (∀ g ∈ action, g.name = .action) ∧ Tile 0 line.utf8ByteSize groups.outermost ∧
      String.join (groups.outermost.map (·.value)) = line
  /-- Every other group lies in the one that it belongs to. -/
  nested : ∀ g ∈ groups, ∀ owner, g.name.owner? = some owner →
    ∃ h ∈ groups, h.name = owner ∧ h.start ≤ g.start ∧ g.stop ≤ h.stop
  /-- A literal and the name of a target exclude each other. -/
  exclusive : groups.has .literal = true → groups.has .targetName = false
  /-- One of them is there exactly when there is an action. -/
  has_action_iff : groups.has .action = true ↔
    groups.has .literal = true ∨ groups.has .targetName = true

end Groups

/-! ## Places in a text -/

/-- The number of bytes is the size of the text in UTF-8. -/
theorem byteLength_eq (cs : List Char) : byteLength cs = (String.ofList cs).utf8ByteSize := by
  induction cs with
  | nil => rfl
  | cons c cs ih =>
    have hsize : [c].utf8Encode.size = c.utf8Size := by
      rw [List.utf8Encode_singleton, List.size_toByteArray, String.length_utf8EncodeChar]
    have hcons : byteLength (c :: cs) = c.utf8Size + byteLength cs := rfl
    rw [hcons, ih, ← String.size_toByteArray, ← String.size_toByteArray, String.toByteArray_ofList,
      String.toByteArray_ofList, List.utf8Encode_cons, ByteArray.size_append, hsize]

theorem byteLength_append (cs ds : List Char) :
    byteLength (cs ++ ds) = byteLength cs + byteLength ds := by
  rw [byteLength_eq, byteLength_eq, byteLength_eq, String.ofList_append, String.utf8ByteSize_append]

/-- A part of a text stands in it behind the bytes that are before it. -/
theorem extract_toUTF8 (before value behind : List Char) :
    (String.ofList (before ++ value ++ behind)).toUTF8.extract (byteLength before)
      (byteLength before + byteLength value) = (String.ofList value).toUTF8 := by
  have hsize (cs : List Char) : byteLength cs = cs.utf8Encode.size := by
    rw [byteLength_eq, ← String.size_toByteArray, String.toByteArray_ofList]
  simp only [String.toUTF8_eq_toByteArray, String.toByteArray_ofList, List.utf8Encode_append, hsize]
  rw [ByteArray.append_assoc]
  have hbehind := ByteArray.extract_append_size_add (a := before.utf8Encode)
    (b := value.utf8Encode ++ behind.utf8Encode) (i := 0) (j := value.utf8Encode.size)
  rw [Nat.add_zero] at hbehind
  rw [hbehind, ByteArray.extract_append_eq_left rfl]

namespace Layout

variable {layout : Layout} {start : Nat} {g : Group}

/-- A group of a layout is a part of its text, behind the text before it. -/
theorem exists_place_of_mem (h : g ∈ layout.groups start) :
    ∃ before behind, layout.chars = before ++ g.value.toList ++ behind ∧
      g.start = start + byteLength before ∧ g.stop = g.start + byteLength g.value.toList := by
  induction layout generalizing start with
  | nothing => cases h
  | text cs => cases h
  | part name inner ih =>
    rcases List.mem_cons.1 h with rfl | h
    · refine ⟨[], [], ?_, rfl, ?_⟩
      · rw [chars_part, List.nil_append, List.append_nil, String.toList_ofList]
      · rw [String.toList_ofList]
    · exact ih h
  | beside a b iha ihb =>
    rcases List.mem_append.1 h with h | h
    · obtain ⟨before, behind, hchars, hstart, hstop⟩ := iha h
      refine ⟨before, behind ++ b.chars, ?_, hstart, hstop⟩
      rw [chars, hchars, List.append_assoc]
    · obtain ⟨before, behind, hchars, hstart, hstop⟩ := ihb h
      refine ⟨a.chars ++ before, behind, ?_, ?_, hstop⟩
      · rw [chars, hchars]
        simp only [List.append_assoc]
      · rw [hstart, byteLength_append, Nat.add_assoc]

/-- A group of a layout lies within the layout. -/
theorem bounds_of_mem (h : g ∈ layout.groups start) :
    start ≤ g.start ∧ g.start ≤ g.stop ∧ g.stop ≤ start + byteLength layout.chars := by
  obtain ⟨before, behind, hchars, hstart, hstop⟩ := exists_place_of_mem h
  have hlength : byteLength layout.chars =
      byteLength before + byteLength g.value.toList + byteLength behind := by
    rw [hchars, byteLength_append, byteLength_append]
  omega

/-- The groups of a layout have its names. -/
theorem map_name_groups (layout : Layout) (start : Nat) :
    (layout.groups start).map (·.name) = layout.names := by
  induction layout generalizing start with
  | nothing => rfl
  | text cs => rfl
  | part name inner ih => rw [groups, List.map_cons, ih, names]
  | beside a b iha ihb => rw [groups, List.map_append, iha, ihb, names]

/-! ## Owners in a layout -/

/-- The parts of a layout belong to an owner, except those inside of parts, which belong to the part
that they lie in. -/
def OwnedBy (owner : Option GroupName) : Layout → Prop
  | .nothing | .text _ => True
  | .part name inner => name.owner? = owner ∧ inner.OwnedBy (some name)
  | .beside a b => a.OwnedBy owner ∧ b.OwnedBy owner

variable {owner : Option GroupName}

@[simp] theorem ownedBy_nothing : nothing.OwnedBy owner := trivial

@[simp] theorem ownedBy_text (cs : List Char) : (text cs).OwnedBy owner := trivial

@[simp] theorem ownedBy_part (name : GroupName) (inner : Layout) :
    (part name inner).OwnedBy owner ↔ name.owner? = owner ∧ inner.OwnedBy (some name) := Iff.rfl

@[simp] theorem ownedBy_leaf (name : GroupName) (cs : List Char) :
    (leaf name cs).OwnedBy owner ↔ name.owner? = owner := and_iff_left trivial

@[simp] theorem ownedBy_append (a b : Layout) :
    (a ++ b).OwnedBy owner ↔ a.OwnedBy owner ∧ b.OwnedBy owner := Iff.rfl

@[simp] theorem ownedBy_onlyIf (condition : Bool) (layout : Layout) :
    (onlyIf condition layout).OwnedBy owner ↔ (condition = true → layout.OwnedBy owner) := by
  cases condition <;> simp [onlyIf]

@[simp] theorem ownedBy_ofOption {α : Type} (value : Option α) (layout : α → Layout) :
    (ofOption value layout).OwnedBy owner ↔ ∀ a ∈ value, (layout a).OwnedBy owner := by
  cases value <;> simp [ofOption]

/-- A group belongs to the owner of the layout, or to a group of the layout that it lies in. -/
theorem OwnedBy.owner_of_mem (howned : layout.OwnedBy owner) (h : g ∈ layout.groups start) :
    g.name.owner? = owner ∨ ∃ outer ∈ layout.groups start, g.name.owner? = some outer.name ∧
      outer.start ≤ g.start ∧ g.stop ≤ outer.stop := by
  induction layout generalizing start owner with
  | nothing => cases h
  | text cs => cases h
  | part name inner ih =>
    rcases List.mem_cons.1 h with rfl | h
    · exact .inl howned.1
    · right
      rcases ih howned.2 h with hname | ⟨outer, hmem, houter⟩
      · obtain ⟨hstart, -, hstop⟩ := bounds_of_mem h
        exact ⟨_, List.mem_cons_self, hname, hstart, hstop⟩
      · exact ⟨outer, List.mem_cons_of_mem _ hmem, houter⟩
  | beside a b iha ihb =>
    rcases List.mem_append.1 h with h | h
    · rcases iha howned.1 h with hname | ⟨outer, hmem, houter⟩
      · exact .inl hname
      · exact .inr ⟨outer, List.mem_append_left _ hmem, houter⟩
    · rcases ihb howned.2 h with hname | ⟨outer, hmem, houter⟩
      · exact .inl hname
      · exact .inr ⟨outer, List.mem_append_right _ hmem, houter⟩

/-- A layout that belongs to a part has no outermost groups. -/
theorem outermost_of_owned {name : GroupName} (howned : layout.OwnedBy (some name)) :
    Groups.outermost (layout.groups start) = [] := by
  refine List.filter_eq_nil_iff.2 fun g hg => ?_
  rcases howned.owner_of_mem hg with hname | ⟨outer, -, hname, -⟩
  · rw [hname]
    exact Bool.false_ne_true
  · rw [hname]
    exact Bool.false_ne_true

/-- An outermost part is its only outermost group. -/
theorem outermost_part {name : GroupName} {inner : Layout}
    (howned : (part name inner).OwnedBy none) :
    Groups.outermost ((part name inner).groups start) =
      [⟨name, String.ofList inner.chars, start, start + byteLength inner.chars⟩] := by
  have hnone : name.owner?.isNone = true := Option.isNone_iff_eq_none.2 howned.1
  have hinner : Groups.outermost (inner.groups start) = [] := outermost_of_owned howned.2
  rw [groups, Groups.outermost, List.filter_cons, if_pos hnone]
  exact congrArg _ hinner

end Layout

/-! ## The parts of a line -/

/-- A gate is a part with its signs. -/
theorem Gate.exists_part (gate : Gate) :
    ∃ inner, gate.layout = part .gate inner ∧ (part .gate inner).OwnedBy none := by
  refine ⟨_, rfl, rfl, ?_⟩
  cases gate.expected <;> simp [GroupName.owner?]

theorem ownedBy_bracketLayout {name owner : GroupName} (h : name.owner? = some owner)
    (key : Option (List Char)) : (bracketLayout name key).OwnedBy (some owner) := by
  simp [bracketLayout, h]

theorem ownedBy_braceLayout {name owner : GroupName} (h : name.owner? = some owner)
    (body : Option (List Char)) : (braceLayout name body).OwnedBy (some owner) := by
  simp [braceLayout, h]

theorem ownedBy_scope {chapterName boundsName owner : GroupName}
    (hchapter : chapterName.owner? = some owner) (hbounds : boundsName.owner? = some owner)
    (scope : Scope) : (scope.layout chapterName boundsName).OwnedBy (some owner) := by
  cases scope <;> simp [Scope.layout, hchapter, hbounds]

/-- A source is a part of one of three kinds with its own parts. -/
theorem SourceShape.exists_part (source : SourceShape) :
    ∃ kind ∈ sourceKinds, ∃ inner, source.layout = part kind inner ∧
      (part kind inner).OwnedBy none := by
  cases source with
  | exchange side part body =>
    have hbody : (braceLayout .exchangeMatch body).OwnedBy (some .exchange) :=
      ownedBy_braceLayout rfl body
    refine ⟨.exchange, by decide, _, rfl, rfl, ⟨⟨?_, trivial⟩, ?_⟩, hbody⟩
    · cases side <;> simp [GroupName.owner?]
    · cases part with
      | head key => exact ⟨⟨rfl, trivial⟩, ownedBy_bracketLayout rfl key⟩
      | body => exact ⟨rfl, trivial⟩
  | «variable» scope up name body =>
    have hscope : (scope.layout .variableChapter .variableBounds).OwnedBy (some .variable) :=
      ownedBy_scope rfl rfl scope
    have hname : (bracketLayout .variableName name).OwnedBy (some .variable) :=
      ownedBy_bracketLayout rfl name
    have hbody : (braceLayout .variableMatch body).OwnedBy (some .variable) :=
      ownedBy_braceLayout rfl body
    refine ⟨.variable, by decide, _, rfl, rfl, ⟨⟨⟨hscope, ?_⟩, trivial⟩, hname⟩, hbody⟩
    simp [GroupName.owner?]
  | uses chapter condition =>
    have hchapter : (bracketLayout .usesChapter chapter).OwnedBy (some .uses) :=
      ownedBy_bracketLayout rfl chapter
    have hcondition : (braceLayout .usesCondition condition).OwnedBy (some .uses) :=
      ownedBy_braceLayout rfl condition
    exact ⟨.uses, by decide, _, rfl, rfl, ⟨trivial, hchapter⟩, hcondition⟩

theorem ownedBy_spread (spread : SpreadShape) : spread.layout.OwnedBy (some .target) := by
  cases spread <;> simp [SpreadShape.layout, GroupName.owner?]

/-- The layout of a target is a part that belongs to an action. -/
theorem ownedBy_target (t : TargetShape) : t.layout.OwnedBy (some .action) := by
  have hscope : (t.scope.layout .targetChapter .targetBounds).OwnedBy (some .target) :=
    ownedBy_scope rfl rfl t.scope
  simp [TargetShape.layout, GroupName.owner?, hscope, ownedBy_spread t.spread]

/-- An action is a part with its literal or its target. -/
theorem ActionShape.exists_part (action : ActionShape) :
    ∃ inner, action.layout = part .action inner ∧ (part .action inner).OwnedBy none := by
  refine ⟨_, rfl, rfl, trivial, ?_⟩
  cases action with
  | literal cs => simp [GroupName.owner?]
  | target t => exact ownedBy_target t

/-! ## Side by side -/

/-- Tiles up to a place and tiles from there on are tiles. -/
theorem Groups.Tile.append {start middle stop : Nat} {gs hs : Groups} (hg : gs.Tile start middle)
    (hh : hs.Tile middle stop) : Groups.Tile start stop (gs ++ hs) := by
  induction gs generalizing start with
  | nil =>
    obtain rfl : start = middle := hg
    exact hh
  | cons g gs ih => exact ⟨hg.1, ih hg.2⟩

namespace Layout

/-- These are the outermost groups of a layout that starts at a place, and they tile its text. -/
structure TiledBy (layout : Layout) (start : Nat) (tiles : Groups) : Prop where
  /-- They are all of its outermost groups. -/
  outermost_eq : Groups.outermost (layout.groups start) = tiles
  /-- They lie side by side over the whole text. -/
  tile : tiles.Tile start (start + byteLength layout.chars)
  /-- Their texts are the text. -/
  join_eq : String.join (tiles.map (·.value)) = String.ofList layout.chars

/-- Layouts that are tiled are tiled side by side. -/
theorem TiledBy.append {a b : Layout} {start : Nat} {gs hs : Groups} (ha : a.TiledBy start gs)
    (hb : b.TiledBy (start + byteLength a.chars) hs) : (a ++ b).TiledBy start (gs ++ hs) := by
  constructor
  case outermost_eq =>
    have hgroups : (a ++ b).groups start =
        a.groups start ++ b.groups (start + byteLength a.chars) := rfl
    have hfirst := ha.outermost_eq
    have hsecond := hb.outermost_eq
    rw [Groups.outermost] at hfirst hsecond ⊢
    rw [hgroups, List.filter_append, hfirst, hsecond]
  case tile =>
    have htile := ha.tile.append hb.tile
    rwa [Nat.add_assoc, ← byteLength_append] at htile
  case join_eq =>
    rw [List.map_append, String.join_append, ha.join_eq, hb.join_eq, chars_append,
      String.ofList_append]

/-- An outermost part is a tile. -/
theorem tiledBy_part {name : GroupName} {inner : Layout} (howned : (part name inner).OwnedBy none)
    (start : Nat) :
    (part name inner).TiledBy start
      [⟨name, String.ofList inner.chars, start, start + byteLength inner.chars⟩] where
  outermost_eq := outermost_part howned
  tile := ⟨rfl, rfl⟩
  join_eq := by simp

/-- The layout of a value that may be missing, and that is a part, is a tile or nothing. -/
theorem exists_tiledBy_ofOption {α : Type} {layout : α → Layout} {name : GroupName}
    (h : ∀ a, ∃ inner, layout a = part name inner ∧ (part name inner).OwnedBy none)
    (value : Option α) (start : Nat) :
    ∃ tile : Option Group, (ofOption value layout).TiledBy start tile.toList ∧
      ∀ g ∈ tile, g.name = name := by
  cases value with
  | none =>
    refine ⟨none, ⟨rfl, rfl, rfl⟩, ?_⟩
    simp
  | some a =>
    obtain ⟨inner, hlayout, howned⟩ := h a
    have htiled := tiledBy_part howned start
    rw [← hlayout] at htiled
    refine ⟨some _, htiled, ?_⟩
    simp

end Layout

namespace Shape

/-- The parts of a line belong to the parts that they lie in. -/
theorem ownedBy_layout (shape : Shape) : shape.layout.OwnedBy none := by
  obtain ⟨kind, -, inner, hsource, howned⟩ := shape.source.exists_part
  rw [layout, ownedBy_append, ownedBy_append, ownedBy_ofOption, ownedBy_ofOption, hsource]
  refine ⟨⟨fun gate _ => ?_, howned⟩, fun action _ => ?_⟩
  · obtain ⟨inner, hgate, howned⟩ := gate.exists_part
    rwa [hgate]
  · obtain ⟨inner, haction, howned⟩ := action.exists_part
    rwa [haction]

/-- The parts of a line come in the order of the grammar. -/
theorem names_layout_sublist (shape : Shape) :
    shape.layout.names.Sublist (GroupName.labels.map (·.1)) := by
  have hgate := names_ofOption_sublist names_gate_sublist shape.gate
  have haction := names_ofOption_sublist names_action_sublist shape.action
  exact (hgate.append (names_source_sublist shape.source)).append haction

/-- A line is tiled by its gate, its source and its action. -/
theorem exists_tiledBy (shape : Shape) :
    ∃ (gate : Option Group) (source : Group) (action : Option Group),
      shape.layout.TiledBy 0 (gate.toList ++ source :: action.toList) ∧
        (∀ g ∈ gate, g.name = .gate) ∧ source.name ∈ sourceKinds ∧
        ∀ g ∈ action, g.name = .action := by
  obtain ⟨kind, hkind, inner, hlayout, howned⟩ := shape.source.exists_part
  obtain ⟨gate, hgate, hgatename⟩ := exists_tiledBy_ofOption Gate.exists_part shape.gate 0
  have hsource := tiledBy_part howned (0 + byteLength (ofOption shape.gate Gate.layout).chars)
  rw [← hlayout] at hsource
  have hfront := hgate.append hsource
  obtain ⟨action, haction, hactionname⟩ := exists_tiledBy_ofOption ActionShape.exists_part
    shape.action (0 + byteLength (ofOption shape.gate Gate.layout ++ shape.source.layout).chars)
  have hall := hfront.append haction
  rw [List.append_assoc] at hall
  exact ⟨gate, _, action, hall, hgatename, hkind, hactionname⟩

/-- An action has either a literal or the name of a target. -/
theorem literal_or_targetName (shape : Shape) :
    (shape.groups.has .literal = true → shape.groups.has .targetName = false) ∧
      (shape.groups.has .action = true ↔
        shape.groups.has .literal = true ∨ shape.groups.has .targetName = true) := by
  simp (disch := decide) only [has_groups, lookup_of_mem_actionNames]
  cases shape.action with
  | none => simp
  | some action =>
    cases action with
    | literal cs => simp [ActionShape.layout]
    | target t =>
      obtain ⟨scope, name, matched, count, passed, spread⟩ := t
      cases scope <;> rcases spread with _ | (_ | index) | _ <;>
        simp [ActionShape.layout, TargetShape.layout, SpreadShape.layout]

/-- The groups of a shape tile its text. -/
theorem tileLine_groups (shape : Shape) :
    shape.groups.TileLine (String.ofList shape.chars) := by
  have hnames : shape.groups.map (·.name) = shape.layout.names := shape.layout.map_name_groups 0
  have hsize : (String.ofList shape.chars).utf8ByteSize = 0 + byteLength shape.layout.chars := by
    rw [← byteLength_eq, Nat.zero_add]
    rfl
  obtain ⟨gate, source, action, htiled, hgate, hsource, haction⟩ := shape.exists_tiledBy
  have houtermost : shape.groups.outermost = gate.toList ++ source :: action.toList :=
    htiled.outermost_eq
  constructor
  case ordered =>
    rw [hnames]
    exact shape.names_layout_sublist
  case distinct =>
    rw [hnames]
    exact shape.names_layout_sublist.nodup (by decide)
  case placed =>
    intro g hg
    obtain ⟨-, hle, hstop⟩ := bounds_of_mem hg
    obtain ⟨before, behind, hchars, hgstart, hgstop⟩ := exists_place_of_mem hg
    refine ⟨hle, hsize ▸ hstop, ?_⟩
    rw [Nat.zero_add] at hgstart
    rw [hgstop, hgstart, Shape.chars, hchars, extract_toUTF8, String.ofList_toList]
  case tiled =>
    refine ⟨gate, source, action, houtermost, hgate, hsource, haction, ?_, ?_⟩
    · rw [houtermost, hsize]
      exact htiled.tile
    · rw [houtermost]
      exact htiled.join_eq
  case nested =>
    intro g hg owner howner
    rcases shape.ownedBy_layout.owner_of_mem hg with hnone | ⟨outer, hmem, hname, hbounds⟩
    · rw [howner] at hnone
      cases hnone
    · rw [howner, Option.some_inj] at hname
      exact ⟨outer, hmem, hname.symm, hbounds⟩
  case exclusive => exact shape.literal_or_targetName.1
  case has_action_iff => exact shape.literal_or_targetName.2

end Shape

/-- The groups of a line, where it has any, tile it. -/
theorem Groups.tileLine_ofLine {line : String} (h : ofLine line ≠ []) :
    (ofLine line).TileLine line := by
  cases hshape : Shape.read? line.toList with
  | none => exact absurd (ofLine_of_read?_eq_none hshape) h
  | some shape =>
    obtain ⟨hchars, -⟩ := Shape.chars_of_read? hshape
    have htile := shape.tileLine_groups
    rw [hchars, String.ofList_toList] at htile
    rwa [ofLine_of_read? hshape]

/-- A line with a gate, a source and an action, whose texts are not all of ASCII. -/
def accentedLine : String :=
  "~!response:head[Größe]:\x7bé\x7db\x7d->\x7bü\x7d"

/-- Three groups tile this line, which is longer in bytes than in characters. -/
theorem Groups.tileLine_accented :
    ofLine accentedLine ≠ [] ∧ (ofLine accentedLine).TileLine accentedLine ∧
      (ofLine accentedLine).outermost.map (fun g => (g.name, g.start, g.stop)) =
        [(.gate, 0, 2), (.exchange, 2, 31), (.action, 31, 37)] ∧
      accentedLine.length < accentedLine.utf8ByteSize := by
  have hgroups : ofLine accentedLine ≠ [] := by decide +kernel
  exact ⟨hgroups, tileLine_ofLine hgroups, by decide +kernel, by decide +kernel⟩

end Playback
