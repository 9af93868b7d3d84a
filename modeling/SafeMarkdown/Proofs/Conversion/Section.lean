import SafeMarkdown.Proofs.Conversion.Closure

/-!
# What a section keeps of its opening block

A section takes its leading part from the first element of its name that reading the opening block
finds. The block may hold more than that element: what comes before it, what comes after it, and,
where it is a closed one, the element that was left open. `leading_text_eq_iff` says that the
section keeps the text of the block, spaces aside, exactly when there is nothing but space outside
the element found. Otherwise text is lost that the block would have shown by itself.

Spaces are left aside because a section is often followed by a line end in its opening block, and
reading shortens a text of mere space. What is compared is what is visible: the characters of the
texts without the spaces of HTML, in document order. A block that begins with the element it leaves
open keeps all; that is the usual case.
-/

namespace SafeMarkdown.Document

open Markup (innerText innerTexts)
open Syntax (roleBlock)

/-! ### The text of nodes that were read -/

/-- Texts of nodes follow one another. -/
theorem textOf_cons (n : Node) (ns : List Node) : textOf (n :: ns) = textOf [n] ++ textOf ns := by
  simp [textOf, nodesOf]

mutual

/-- Conversion keeps the text of markup. -/
theorem textOf_of_ofMarkup {depth : Nat} :
    ∀ {m : Markup} {n : Node}, ofMarkup depth m = .ok n → textOf [n] = m.innerText.toList
  | .text value, _, h => by
    cases h
    rw [textOf_text_cons, textOf_nil, List.append_nil, innerText]
  | .element tag attrs content, _, h => by
    rw [ofMarkup] at h
    obtain ⟨children, hchildren, h⟩ := bind_eq_ok_iff.1 h
    cases h
    rw [textOf_htmlElement_cons, textOf_nil, List.append_nil, innerText,
      textOf_of_ofMarkups hchildren]

/-- Nodes that were read hold the text of the markup. -/
theorem textOf_of_ofMarkups {depth : Nat} :
    ∀ {ms : List Markup} {ns : List Node}, ofMarkups depth ms = .ok ns →
      textOf ns = (innerTexts ms).toList
  | [], _, h => by
    obtain ⟨-, -, h⟩ := bind_eq_ok_iff.1 h
    cases h
    rfl
  | m :: ms, _, h => by
    obtain ⟨first, rest, hfirst, hrest, rfl⟩ := exists_of_checked_eq_ok h
    rw [textOf_cons, textOf_of_ofMarkup hfirst, textOf_of_ofMarkups hrest, innerTexts,
      String.toList_append]

end

/-! ### Sections -/

/-- The text without its spaces. -/
def visible (s : List Char) : List Char :=
  s.filter fun c ↦ !Text.isHtmlSpace c

/-- A text of spaces shows nothing. -/
theorem visible_eq_nil_iff {s : List Char} :
    visible s = [] ↔ ∀ c ∈ s, Text.isHtmlSpace c = true := by
  simp [visible, List.filter_eq_nil_iff]

/-- What is visible of two texts follows one another. -/
theorem visible_append (s t : List Char) : visible (s ++ t) = visible s ++ visible t :=
  List.filter_append s t

/-- A part of a text has all its visible characters where those around it are spaces. -/
theorem visible_eq_visible_around_iff {before inner after : List Char} :
    visible inner = visible (before ++ inner ++ after) ↔ visible (before ++ after) = [] := by
  rw [visible_append, visible_append, visible_append]
  constructor
  · intro h
    have hlen := congrArg List.length h
    simp only [List.length_append] at hlen
    refine List.append_eq_nil_iff.2 ⟨?_, ?_⟩ <;> exact List.length_eq_zero_iff.1 (by omega)
  · intro h
    obtain ⟨hbefore, hafter⟩ := List.append_eq_nil_iff.1 h
    rw [hbefore, hafter, List.nil_append, List.append_nil]

/-- **What a section leads with** shows all that its opening block shows exactly when nothing
visible is outside the element found. -/
theorem Starts.visible_eq_iff {source tag : String} {depth d : Nat} {attrs : List Attr}
    {leading whole : List Node} {parsed : List Markup} (h : Starts source tag depth attrs leading)
    (hparsed : Html.parse source = .ok parsed) (hwhole : ofMarkups d parsed = .ok whole) :
    visible (textOf leading) = visible (textOf whole) ↔
      ∀ c ∈ (Html.outerText tag parsed).toList, Text.isHtmlSpace c = true := by
  obtain ⟨nodes, hnodes, hfind⟩ := h
  obtain rfl := Except.ok.inj (hnodes.symm.trans hparsed)
  rw [textOf_of_ofMarkups hwhole]
  rcases hfind with ⟨hfind, -, rfl⟩ | ⟨content, hfind, hleading⟩
  · rw [Html.outerText_of_find_eq_none hfind, ← visible_eq_nil_iff]
    exact eq_comm
  · obtain ⟨before, after, hinner, houter⟩ := Html.exists_innerTexts_of_find hfind
    rw [textOf_of_ofMarkups hleading, hinner, houter, String.toList_append, String.toList_append,
      String.toList_append, visible_eq_visible_around_iff, visible_eq_nil_iff]

/-- What is known of a section by itself. -/
def SectionStarts : Node → Prop
  | .htmlSection tag attrs leading _ startSource _ =>
    roleBlock startSource = .opening tag ∧ ∃ depth, Starts startSource tag depth attrs leading
  | _ => True

/-- Every section that conversion makes starts with an element that reading finds. -/
theorem conversionClosed_sectionStarts : ConversionClosed SectionStarts SectionStarts where
  text _ := trivial
  softBreak := trivial
  hardBreak := trivial
  codeSpan _ := trivial
  image _ := trivial
  rawHtml _ := trivial
  emphasis _ := trivial
  strong _ := trivial
  link _ _ _ := trivial
  read _ _ _ _ := trivial
  lone _ _ := trivial
  paired _ _ _ _ := trivial
  paragraph _ := trivial
  heading _ _ _ := trivial
  blockQuote _ := trivial
  codeBlock _ := trivial
  list _ _ _ _ := trivial
  thematicBreak := trivial
  htmlBlock _ _ _ := trivial
  htmlSection hopening _ hstarts _ _ := ⟨hopening, _, hstarts⟩

/-- **When a section keeps the text of its opening block.** For every section in what a list of
syntax nodes is converted to, the leading part holds the text that the opening block would have
shown by itself, spaces aside, exactly when the block has only space outside the first element of
the section's name. -/
theorem leading_text_eq_iff {nodes : List Syntax.Node} {depth : Nat} {blocks : List Node}
    (h : ofBlocks (blockSiblings nodes) depth = .ok blocks) {tag : String} {attrs : List Attr}
    {leading children : List Node} {startSource endSource : String}
    (hmem : .htmlSection tag attrs leading children startSource endSource ∈ nodesOf blocks) :
    ∃ parsed, Html.parse startSource = .ok parsed ∧
      ∀ {d whole}, ofMarkups d parsed = .ok whole →
        (visible (textOf leading) = visible (textOf whole) ↔
          ∀ c ∈ (Html.outerText tag parsed).toList, Text.isHtmlSpace c = true) := by
  obtain ⟨-, d, hstarts⟩ :=
    conversionClosed_sectionStarts.forall_mem_nodesOf_of_ofBlocks h _ hmem
  obtain ⟨parsed, hparsed, -⟩ := id hstarts
  exact ⟨parsed, hparsed, fun hwhole ↦ hstarts.visible_eq_iff hparsed hwhole⟩

/-! ### A wrapper in two blocks -/

/-- A block and the end tag of a `div` after it. -/
def wrapper (source : String) : List Syntax.Node :=
  [{ kind := .htmlBlock, content := source }, { kind := .htmlBlock, content := "</div>" }]

/-- A block that opens, with its end tag, is converted to a section. -/
theorem ofBlocks_wrapper {source : String} {attrs : List Attr} {leading : List Node}
    (hrole : roleBlock source = .opening "div")
    (hstart : sectionStart source 1 = .ok ("div", attrs, leading)) :
    ofBlocks (blockSiblings (wrapper source)) 0 =
      .ok [.htmlSection "div" attrs leading [] source "</div>"] := by
  have hclosing : roleBlock "</div>" = .closing "div" := by decide
  have hpairs : Syntax.pairTags .htmlBlock (wrapper source) = [(0, 1)] := by
    simp [Syntax.pairTags, wrapper, Syntax.Node.role, hrole, hclosing, Syntax.pairsFrom]
  have hbuild (a b : Sibling) : Syntax.Nest.build [(0, 1)] 0 [a, b] = [.pair a [] b] := by
    with_unfolding_all rfl
  have hnodes : (blockSiblings (wrapper source)).map Sibling.node = wrapper source := rfl
  rw [ofBlocks, hnodes, hpairs]
  simp only [wrapper, blockSiblings, hbuild, ofBlockNests, ofBlockNest, hstart]
  rfl

/-- A block with one element in it, left open, gives all its text to the section. -/
theorem leading_text_openDiv :
    ∃ blocks leading whole, ofBlocks (blockSiblings (wrapper "<div>a")) 0 = .ok blocks ∧
      .htmlSection "div" [] leading [] "<div>a" "</div>" ∈ nodesOf blocks ∧
      ofMarkups 1 [.element "div" [] [.text "a"]] = .ok whole ∧
      visible (textOf leading) = visible (textOf whole) := by
  have hparse : Html.parse "<div>a" = .ok [.element "div" [] [.text "a"]] := by
    with_unfolding_all rfl
  have hstart : sectionStart "<div>a" 1 = .ok ("div", [], [.text "a"]) := by
    rw [sectionStart, readHtml, hparse]
    rfl
  have hblocks := ofBlocks_wrapper (by decide) hstart
  have hmem : .htmlSection "div" [] [.text "a"] [] "<div>a" "</div>" ∈
      nodesOf [.htmlSection "div" [] [.text "a"] [] "<div>a" "</div>"] := List.mem_cons_self
  have hwhole : ofMarkups 1 [.element "div" [] [.text "a"]] =
      .ok [.htmlElement "div" [] [.text "a"] "" "" false] := rfl
  refine ⟨_, _, _, hblocks, hmem, hwhole, ?_⟩
  obtain ⟨parsed, hparsed, hiff⟩ := leading_text_eq_iff hblocks hmem
  obtain rfl := Except.ok.inj (hparse.symm.trans hparsed)
  have houter : (Html.outerText "div" [.element "div" [] [.text "a"]]).toList = [] := rfl
  refine (hiff hwhole).2 ?_
  rw [houter]
  exact List.forall_mem_nil _

/-- Of two elements of one name, the first closed and the second left open, the section keeps the
text of the first. -/
theorem leading_text_ne_closedDiv :
    ∃ leading whole,
      ofBlocks (blockSiblings (wrapper "<div>a</div><div>b")) 0 =
        .ok [.htmlSection "div" [] leading [] "<div>a</div><div>b" "</div>"] ∧
      (readHtml "<div>a</div><div>b" >>= ofMarkups 1) = .ok whole ∧
      visible (textOf leading) ≠ visible (textOf whole) := by
  have hparse : Html.parse "<div>a</div><div>b" =
      .ok [.element "div" [] [.text "a"], .element "div" [] [.text "b"]] := by
    with_unfolding_all rfl
  have hstart : sectionStart "<div>a</div><div>b" 1 = .ok ("div", [], [.text "a"]) := by
    rw [sectionStart, readHtml, hparse]
    rfl
  have hwhole : (readHtml "<div>a</div><div>b" >>= ofMarkups 1) =
      .ok [.htmlElement "div" [] [.text "a"] "" "" false,
        .htmlElement "div" [] [.text "b"] "" "" false] := by
    rw [readHtml, hparse]
    rfl
  exact ⟨_, _, ofBlocks_wrapper (by decide) hstart, hwhole, by decide⟩

end SafeMarkdown.Document
