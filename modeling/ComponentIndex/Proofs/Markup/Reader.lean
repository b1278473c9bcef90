/-
**Trees of markup lie within their source.**

The pieces of a document are read between places of its source, so the nodes lie within the source, and
no surrogate occurs in the texts they span.  A step through a document keeps this of the elements that
are open, and so does closing them.

Main definitions:

* `ComponentIndex.Markup.Node.IsWithin` — a tree lies within a source;
* `ComponentIndex.Markup.Context.IsWithin` — so do the elements that are open.

Main results:

* `ComponentIndex.Markup.liesWithin_step?` — **a step** stays within the source;
* `ComponentIndex.Markup.isWithin_parse` — **the tree of a source** lies within it;
* `ComponentIndex.Markup.isScalar_value_of_mem_loopsIn` — no surrogate occurs in what the loops of a
  document spell, if it lies within a source.
-/

import ComponentIndex.Markup.Section
import ComponentIndex.Proofs.Markup.Traversal
import ComponentIndex.Proofs.Text.Mark

set_option relaxedAutoImplicit false
set_option autoImplicit false

namespace ComponentIndex.Markup

open Located

variable {size : Nat} {m : Mark}

/-! ### Nodes within a source -/

/-- Every node of a tree lies within a source of the given size, and no surrogate occurs in the text it
spans. -/
inductive Node.IsWithin (size : Nat) : Node → Prop
  | mk {n : Node} (start_le : n.start ≤ size) (stop_le : n.stop ≤ size)
      (isScalar_text : n.text.isScalar = true) (children : ∀ c ∈ n.children, c.IsWithin size) :
      n.IsWithin size

instance : Located Node := ⟨Node.IsWithin⟩

/-- A name of an element is no place. -/
instance : Located Tag := ⟨fun _ _ => True⟩

namespace Node.IsWithin

variable {n : Node}

theorem isScalar_text (h : n.IsWithin size) : n.text.isScalar = true := by
  obtain ⟨-, -, h, -⟩ := h
  exact h

theorem children (h : n.IsWithin size) : LiesWithin size n.children := by
  obtain ⟨-, -, -, h⟩ := h
  exact h

end Node.IsWithin

theorem isWithin_nodeBetween {stop : Mark} (hm : m.IsWithin size) (hstop : stop.IsWithin size)
    {ns : List Node} (hns : LiesWithin size ns) (kind : Kind) :
    (nodeBetween kind m stop ns).IsWithin size :=
  .mk hm.offset_le hstop.offset_le (hm.isScalar_textTo stop) hns

/-! ### Pieces -/

theorem liesWithin_commentEnd? (h : m.IsWithin size) : LiesWithin size (commentEnd? m) := by
  obtain ⟨rest, offset⟩ := m
  rw [commentEnd?]
  generalize 0 = hyphens
  induction rest generalizing hyphens offset with
  | nil => exact liesWithin_none
  | cons g rest ih =>
      rw [commentEnd?.go]
      split
      · exact ih _ h.tail _
      split
      · exact liesWithin_some.2 h.tail
      · exact ih _ h.tail _

theorem liesWithin_comment? (h : m.IsWithin size) : LiesWithin size (comment? m) := by
  have hinner := h.skipText? "<!--"
  rw [comment?]
  split
  · exact liesWithin_none
  next inner heq =>
    exact liesWithin_map (liesWithin_commentEnd? (hinner inner heq)) fun stop hstop =>
      ⟨isWithin_nodeBetween h hstop liesWithin_nil _, hstop⟩

theorem liesWithin_doctype? (h : m.IsWithin size) : LiesWithin size (doctype? m) := by
  have hinner := h.skipText? "<!"
  rw [doctype?]
  split
  · exact liesWithin_none
  next inner heq =>
    have hbody := ((hinner inner heq).skipWhile isSpace).skip 7
    have hstop := (hbody.skipGlyphs fun g => !g.is '>').next
    dsimp only
    split
    · exact liesWithin_some.2 ⟨isWithin_nodeBetween h hstop liesWithin_nil _, hstop⟩
    · exact liesWithin_none

theorem liesWithin_tagName? (h : m.IsWithin size) : LiesWithin size (tagName? m) := by
  have hstart := h.skipWhile isSpace
  have hstop := hstart.skipWhile isTagNamePart
  rw [tagName?]
  split
  · exact liesWithin_none
  · exact liesWithin_some.2 ⟨isWithin_nodeBetween hstart hstop liesWithin_nil _, hstop⟩

theorem isWithin_rawTextEnd (close : List CodePoint) (h : m.IsWithin size) :
    (rawTextEnd close m).IsWithin size := by
  have hgo : ∀ (rest : List Glyph) (left : List CodePoint) (outside : Mark) (offset : Nat),
      outside.IsWithin size → (⟨rest, offset⟩ : Mark).IsWithin size →
        (rawTextEnd.go close left outside rest offset).IsWithin size := by
    intro rest
    induction rest with
    | nil =>
        intro left outside offset houtside h
        exact h.ite houtside _
    | cons g rest ih =>
        intro left outside offset houtside h
        rw [rawTextEnd.go.eq_def]
        dsimp only
        split
        · exact houtside
        split
        · split
          · exact houtside
          · exact ih _ _ _ houtside h.tail
        · exact ih _ _ _ h.tail h.tail
  exact hgo m.rest close m m.offset h h

theorem isWithin_textEnd (h : m.IsWithin size) : (textEnd m).IsWithin size := by
  have hgo : ∀ (rest : List Glyph) (last : Mark) (offset : Nat), last.IsWithin size →
      (⟨rest, offset⟩ : Mark).IsWithin size → (textEnd.go last rest offset).IsWithin size := by
    intro rest
    induction rest with
    | nil => exact fun _ _ hlast _ => hlast
    | cons g rest ih =>
        intro last offset hlast h
        rw [textEnd.go]
        split
        · exact hlast
        · exact ih _ _ (hlast.ite h.tail _) h.tail
  exact hgo m.rest m m.offset h h

theorem liesWithin_entityEnd? (h : m.IsWithin size) : LiesWithin size (entityEnd? m) := by
  rw [entityEnd?]
  split
  · exact liesWithin_none
  split
  next start digits most heq =>
    have hstart : start.IsWithin size := by
      split at heq
      · split at heq
        · obtain ⟨rfl, -⟩ := Prod.mk.inj heq
          exact h.skip 3
        · obtain ⟨rfl, -⟩ := Prod.mk.inj heq
          exact h.skip 2
      · obtain ⟨rfl, -⟩ := Prod.mk.inj heq
        exact h.next
    dsimp only
    split
    · exact liesWithin_none
    · have hstop := hstart.skip (min most ((start.skipWhile digits).offset - start.offset))
      exact liesWithin_some.2 (hstop.next.ite hstop _)

/-! ### Tags -/

theorem liesWithin_quotedValue? (h : m.IsWithin size) : LiesWithin size (quotedValue? m) := by
  rw [quotedValue?]
  split
  · exact liesWithin_none
  next q heq =>
    have hstop := h.next.skipGlyphs fun g => !g.is q
    split
    · dsimp only
      split
      · refine liesWithin_some.2 ⟨isWithin_nodeBetween h hstop.next ?_ _, hstop.next⟩
        split
        · exact liesWithin_nil
        · exact liesWithin_singleton.2 (isWithin_nodeBetween h.next hstop liesWithin_nil _)
      · exact liesWithin_none
    · exact liesWithin_none

theorem liesWithin_attributeValue? (h : m.IsWithin size) :
    LiesWithin size (attributeValue? m) := by
  have hquoted := liesWithin_quotedValue? h
  have hstop := h.skipGlyphs (isPart isBareValuePart)
  rw [attributeValue?]
  split
  next heq =>
    rw [← heq]
    exact hquoted
  · dsimp only
    split
    · exact liesWithin_none
    · exact liesWithin_some.2 ⟨isWithin_nodeBetween h hstop liesWithin_nil _, hstop⟩

theorem liesWithin_attribute? (h : m.IsWithin size) : LiesWithin size (attribute? m) := by
  have hname := h.skipGlyphs (isPart isAttributeNamePart)
  have hnode := isWithin_nodeBetween h hname liesWithin_nil .attributeName
  have hsign := hname.skipWhile isSpace
  rw [attribute?]
  dsimp only
  split
  · exact liesWithin_none
  split
  · refine liesWithin_map (liesWithin_attributeValue? (hsign.next.skipWhile isSpace)) ?_
    rintro ⟨value, stop⟩ ⟨hvalue, hstop⟩
    refine ⟨isWithin_nodeBetween h hstop ?_ _, hstop⟩
    exact liesWithin_cons.2 ⟨hnode, liesWithin_singleton.2 hvalue⟩
  · exact liesWithin_some.2
      ⟨isWithin_nodeBetween h hname (liesWithin_singleton.2 hnode) _, hname⟩

theorem liesWithin_attributes? (fuel : Nat) (h : m.IsWithin size) :
    LiesWithin size (attributes? fuel m) := by
  induction fuel generalizing m with
  | zero => exact liesWithin_none
  | succ fuel ih =>
      have hm := h.skipWhile isSpace
      have hpiece := liesWithin_or (liesWithin_comment? hm) (liesWithin_attribute? hm)
      rw [attributes?]
      dsimp only
      split
      · exact liesWithin_some.2 ⟨liesWithin_nil, hm⟩
      split
      · exact liesWithin_none
      next n stop heq =>
        obtain ⟨hn, hstop⟩ := hpiece _ heq
        exact liesWithin_map (ih hstop) fun _ hrest =>
          ⟨liesWithin_cons.2 ⟨hn, hrest.1⟩, hrest.2⟩

theorem liesWithin_startTag? (fuel : Nat) (h : m.IsWithin size) :
    LiesWithin size (startTag? fuel m) := by
  have hname := liesWithin_tagName? h.next
  rw [startTag?]
  split
  · exact liesWithin_none
  next name nameStop heq =>
    obtain ⟨hname, hnameStop⟩ := hname _ heq
    refine liesWithin_map (liesWithin_attributes? fuel hnameStop) ?_
    rintro ⟨attrs, close⟩ ⟨hattrs, hclose⟩
    have hparts := liesWithin_cons.2 ⟨hname, hattrs⟩
    dsimp only
    split
    · exact ⟨isWithin_nodeBetween h hclose.next hparts _, trivial, trivial, hclose.next⟩
    · exact ⟨isWithin_nodeBetween h (hclose.skip 2) hparts _, trivial, trivial, hclose.skip 2⟩

theorem liesWithin_endTag? (h : m.IsWithin size) : LiesWithin size (endTag? m) := by
  have hname := liesWithin_tagName? (h.skip 2)
  rw [endTag?]
  split
  · exact liesWithin_none
  next name nameStop heq =>
    obtain ⟨hname, hnameStop⟩ := hname _ heq
    dsimp only
    split
    · exact liesWithin_some.2 ⟨hname, trivial, (hnameStop.skipWhile isSpace).next⟩
    · exact liesWithin_none

theorem liesWithin_rawElement? (h : m.IsWithin size) (tag : Tag) {opening : Node}
    (hopening : opening.IsWithin size) {inner : Mark} (hinner : inner.IsWithin size) :
    LiesWithin size (rawElement? m tag opening inner) := by
  have hstop := isWithin_rawTextEnd (Text.ofString "</" ++ tag.name) hinner
  have hend := liesWithin_endTag? hstop
  rw [rawElement?]
  dsimp only
  split
  · exact liesWithin_none
  next name closing close heq =>
    obtain ⟨hname, -, hclose⟩ := hend _ heq
    split
    · refine liesWithin_some.2 ⟨isWithin_nodeBetween h hclose ?_ _, hclose⟩
      simp only [liesWithin_cons]
      exact ⟨hopening, isWithin_nodeBetween hinner hstop liesWithin_nil _,
        isWithin_nodeBetween hstop hclose (liesWithin_singleton.2 hname) _, liesWithin_nil⟩
    · exact liesWithin_none

/-! ### Open elements -/

/-- An open element lies within a source of the given size. -/
structure Frame.IsWithin (size : Nat) (f : Frame) : Prop where
  /-- Its beginning. -/
  start : f.start.IsWithin size
  /-- What it holds so far. -/
  children : LiesWithin size f.children

instance : Located Frame := ⟨Frame.IsWithin⟩

/-- The open elements and what stands outside of them lie within a source of the given size. -/
structure Context.IsWithin (size : Nat) (c : Context) : Prop where
  /-- The open elements. -/
  frames : LiesWithin size c.frames
  /-- What stands outside of them. -/
  done : LiesWithin size c.done

instance : Located Context := ⟨Context.IsWithin⟩

/-- An open element that ends at a place. -/
theorem Frame.IsWithin.isWithin_element {f : Frame} (h : f.IsWithin size) {stop : Mark}
    (hstop : stop.IsWithin size) {last : List Node} (hlast : LiesWithin size last) :
    (nodeBetween .element f.start stop (f.children.reverse ++ last)).IsWithin size :=
  isWithin_nodeBetween h.start hstop
    (liesWithin_append.2 ⟨liesWithin_reverse.2 h.children, hlast⟩) _

namespace Context.IsWithin

variable {c : Context}

theorem add (h : c.IsWithin size) {n : Node} (hn : n.IsWithin size) : (c.add n).IsWithin size := by
  have hframes := h.frames
  rw [Context.add]
  split
  · exact ⟨h.frames, liesWithin_cons.2 ⟨hn, h.done⟩⟩
  next f fs heq =>
    rw [heq, liesWithin_cons] at hframes
    obtain ⟨hf, hfs⟩ := hframes
    exact ⟨liesWithin_cons.2 ⟨⟨hf.start, liesWithin_cons.2 ⟨hn, hf.children⟩⟩, hfs⟩, h.done⟩

theorem close (h : c.IsWithin size) {stop : Mark} (hstop : stop.IsWithin size) {last : List Node}
    (hlast : LiesWithin size last) : (c.close stop last).IsWithin size := by
  have hframes := h.frames
  rw [Context.close]
  split
  · exact h
  next f fs heq =>
    rw [heq, liesWithin_cons] at hframes
    obtain ⟨hf, hfs⟩ := hframes
    have hrest : Context.IsWithin size { c with frames := fs } := ⟨hfs, h.done⟩
    exact hrest.add (hf.isWithin_element hstop hlast)

end Context.IsWithin

/-! ### Documents -/

/-- **A step** stays within the source. -/
theorem liesWithin_step? (fuel : Nat) (h : m.IsWithin size) {c : Context} (hc : c.IsWithin size) :
    LiesWithin size (step? fuel m c) := by
  rw [step?]
  split
  · refine liesWithin_map (liesWithin_or (liesWithin_comment? h) (liesWithin_doctype? h)) ?_
    rintro ⟨n, stop⟩ ⟨hn, hstop⟩
    exact ⟨hstop, hc.add hn⟩
  split
  · have hend := liesWithin_endTag? h
    split
    · exact liesWithin_none
    next name tag stop heq =>
      obtain ⟨hname, -, hstop⟩ := hend _ heq
      have hnode := fun kind => isWithin_nodeBetween h hstop (liesWithin_singleton.2 hname) kind
      split
      · exact liesWithin_some.2 ⟨h, hc.close h liesWithin_nil⟩
      split
      · exact liesWithin_some.2 ⟨hstop, hc.close hstop (liesWithin_singleton.2 (hnode _))⟩
      · exact liesWithin_some.2 ⟨hstop, hc.add (hnode _)⟩
  split
  · have hstart := liesWithin_startTag? fuel h
    split
    · exact liesWithin_none
    next opening tag closesItself stop heq =>
      obtain ⟨hopening, -, -, hstop⟩ := hstart _ heq
      have hparts := liesWithin_singleton.2 hopening
      split
      · exact liesWithin_some.2 ⟨h, hc.close h liesWithin_nil⟩
      split
      · split
        · exact liesWithin_none
        · refine liesWithin_map (liesWithin_rawElement? h tag hopening hstop) ?_
          rintro ⟨n, close⟩ ⟨hn, hclose⟩
          exact ⟨hclose, hc.add hn⟩
      split
      · exact liesWithin_some.2 ⟨hstop, hc.add (isWithin_nodeBetween h hstop hparts _)⟩
      · exact liesWithin_some.2 ⟨hstop, liesWithin_cons.2 ⟨⟨h, hparts⟩, hc.frames⟩, hc.done⟩
  split
  · exact liesWithin_map (liesWithin_entityEnd? h) fun stop hstop =>
      ⟨hstop, hc.add (isWithin_nodeBetween h hstop liesWithin_nil _)⟩
  · have hstop := isWithin_textEnd h
    dsimp only
    split
    · exact liesWithin_none
    · exact liesWithin_some.2 ⟨hstop, hc.add (isWithin_nodeBetween h hstop liesWithin_nil _)⟩

theorem liesWithin_closeAll? {stop : Mark} (hstop : stop.IsWithin size) {frames : List Frame}
    (hframes : LiesWithin size frames) {done : List Node} (hdone : LiesWithin size done) :
    LiesWithin size (closeAll? stop frames done) := by
  have helement : ∀ {f : Frame}, f.IsWithin size →
      (nodeBetween .element f.start stop f.children.reverse).IsWithin size := fun hf =>
    isWithin_nodeBetween hf.start hstop (liesWithin_reverse.2 hf.children) _
  fun_induction closeAll? stop frames done with
  | case1 done => exact liesWithin_some.2 (liesWithin_reverse.2 hdone)
  | case2 f done =>
      have hf := helement (liesWithin_singleton.1 hframes)
      exact liesWithin_some.2 (liesWithin_reverse.2 (liesWithin_cons.2 ⟨hf, hdone⟩))
  | case3 => exact liesWithin_none
  | case4 f g fs done _ n ih =>
      obtain ⟨hf, hrest⟩ := liesWithin_cons.1 hframes
      obtain ⟨hg, hfs⟩ := liesWithin_cons.1 hrest
      have hn : n = nodeBetween .element f.start stop f.children.reverse := by simp [n]
      dsimp only
      rw [← hn]
      refine ih (liesWithin_cons.2 ⟨⟨hg.start, ?_⟩, hfs⟩) hdone
      exact liesWithin_cons.2 ⟨hn ▸ helement hf, hg.children⟩
  | case5 => exact liesWithin_none

theorem liesWithin_document? (fuel steps : Nat) (h : m.IsWithin size) {c : Context}
    (hc : c.IsWithin size) : LiesWithin size (document? fuel steps m c) := by
  induction steps generalizing m c with
  | zero => exact liesWithin_none
  | succ steps ih =>
      have hm := h.skipWhile isSpace
      have hstep := liesWithin_step? fuel hm hc
      rw [document?]
      split
      · exact liesWithin_closeAll? hm hc.frames hc.done
      split
      · exact liesWithin_none
      next stop c' heq =>
        obtain ⟨hstop, hc'⟩ := hstep _ heq
        exact ih hstop hc'

/-- **The tree of a source** lies within it. -/
theorem isWithin_parse (bytes : List UInt8) : (parse bytes).IsWithin bytes.length := by
  have hstart := Mark.isWithin_atStart bytes
  have hparse : LiesWithin bytes.length (parse? bytes) := by
    refine liesWithin_map (liesWithin_document? _ _ hstart ⟨liesWithin_nil, liesWithin_nil⟩) ?_
    intro nodes hnodes
    exact .mk (Nat.zero_le _) (Nat.le_refl _) (Glyph.isScalar_textOf hstart.scalar) hnodes
  rw [parse]
  cases hn : parse? bytes with
  | none => exact .mk (Nat.zero_le _) (Nat.zero_le _) rfl liesWithin_nil
  | some n => exact hparse n hn

/-! ### Reading nodes -/

mutual

/-- All nodes of a tree lie where the tree does. -/
theorem Node.IsWithin.preorder :
    ∀ {n : Node}, n.IsWithin size → LiesWithin size n.preorder
  | ⟨kind, start, stop, text, children⟩, h => by
      rw [Node.preorder]
      exact liesWithin_cons.2 ⟨h, liesWithin_preorderAll h.children⟩

theorem liesWithin_preorderAll :
    ∀ {ns : List Node}, LiesWithin size ns → LiesWithin size (Node.preorderAll ns)
  | [], h => h
  | n :: ns, h => by
      obtain ⟨hn, hns⟩ := liesWithin_cons.1 h
      rw [Node.preorderAll]
      exact liesWithin_append.2 ⟨hn.preorder, liesWithin_preorderAll hns⟩

end

theorem isScalar_of_attributeValueIn? {ns : List Node} (h : LiesWithin size ns) {value : Text}
    (hvalue : Node.attributeValueIn? ns = some value) : value.isScalar = true := by
  induction ns with
  | nil => cases hvalue
  | cons n ns ih =>
      obtain ⟨hn, hns⟩ := liesWithin_cons.1 h
      rw [Node.attributeValueIn?] at hvalue
      split at hvalue
      · obtain rfl := Option.some.inj hvalue
        exact hn.isScalar_text
      · split at hvalue
        next inner hinner =>
          obtain rfl := Option.some.inj hvalue
          exact (hn.children inner (List.mem_of_find?_eq_some hinner)).isScalar_text
        · obtain rfl := Option.some.inj hvalue
          rfl
      · exact ih hns hvalue

/-- No surrogate occurs in the value of an attribute. -/
theorem Node.IsWithin.isScalar_of_attribute? {n : Node} (h : n.IsWithin size) {name value : Text}
    (hvalue : n.attribute? name = some value) : value.isScalar = true := by
  obtain ⟨tag, htag, before, found, after, hsplit, -, -, hfound⟩ :=
    Node.attribute?_eq_some_iff.1 hvalue
  have htag' : tag.IsWithin size := h.children tag (List.mem_of_find?_eq_some htag)
  have hmem : found ∈ tag.children := hsplit ▸ List.mem_append_right _ List.mem_cons_self
  exact isScalar_of_attributeValueIn? (htag'.children found hmem).children hfound

/-- No surrogate occurs in what a loop of a document spells. -/
theorem isScalar_value_of_mem_loopsIn {document : Node} (h : document.IsWithin size)
    {bytes : List UInt8} {d : LoopDirective} (hd : d ∈ loopsIn bytes document) :
    d.value.isScalar = true := by
  rw [loopsIn_eq] at hd
  obtain ⟨n, hn, hloop⟩ := List.mem_filterMap.1 hd
  have hwithin : n.IsWithin size := by
    rw [Node.templateNodes] at hn
    split at hn
    next template htemplate =>
      have hmem := List.mem_of_find?_eq_some htemplate
      exact (h.children template hmem).preorder n hn
    · cases hn
  rw [Node.loop?] at hloop
  split at hloop
  · split at hloop
    next hattribute _ =>
      obtain rfl := Option.some.inj hloop
      exact hwithin.isScalar_of_attribute? hattribute
    · cases hloop
  · cases hloop

end ComponentIndex.Markup
