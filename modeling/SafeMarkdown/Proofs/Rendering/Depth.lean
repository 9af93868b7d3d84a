import SafeMarkdown.Proofs.Conversion.Sorted
import SafeMarkdown.Proofs.Rendering.Outcome

/-!
# Where conversion and rendering count differently

Conversion and rendering hold lists to the same limit of depth and count the levels alike, with one
exception. A tag in running text that stands alone becomes an element without children. Conversion
makes no list for the children it does not have; rendering renders their empty list, one level
further down, and refuses it where the element itself stands at the limit. Only under a policy that
drops the element is the list not looked at.

`renders_iff_fitsAt_limit` says that there is no other difference. A document that comes from a
syntax tree can be rendered exactly when the mode drops every raw element that stands at the limit,
and a rendering that fails does so at the limit of depth. `tooDeep_loneBreak` is a tree that
converts and whose document cannot be rendered.

`FitsAt` speaks of the nodes a number of levels below a list, and the proof brings the rules of
conversion to bear on it: `InlineFits` and `BlockFits` say of a node that is made at a depth that it
is rendered there exactly when it fits at the levels that are left. A node that is read from markup
always fits, because its list of children was checked when it was made.
-/

namespace SafeMarkdown

open Document (Node depthLimit nodesAtLevel nodesAtLevel_append nodesAtLevel_succ_singleton MadeAt
  Made ConversionRules ofMarkup ofMarkups ofSyntax Starts)

/-- The mode drops a raw element of that tag when it has no children, and does not render the list
that they would be. -/
def HtmlMode.dropsEmpty (mode : HtmlMode) (tag : String) : Bool :=
  match mode with
  | .sanitize policy => !policy.allowsElement tag
  | .parseUnsafe | .dontParse => false

/-- The node can stand at the limit of depth: it is no raw element that the mode would look
into. -/
def HtmlMode.FitsLimit (mode : HtmlMode) : Node → Prop
  | .htmlElement tag .. => mode.dropsEmpty tag = true
  | _ => True

/-- The nodes so many levels below a list, where the limit is, can stand there. -/
def HtmlMode.FitsAt (mode : HtmlMode) (level : Nat) (ns : List Node) : Prop :=
  ∀ n ∈ nodesAtLevel level ns, mode.FitsLimit n

section FitsAt

variable {mode : HtmlMode} {level : Nat}

@[simp] theorem fitsAt_nil : mode.FitsAt level [] := by
  simp [HtmlMode.FitsAt]

/-- Two lists fit when both do. -/
theorem fitsAt_append {ns ms : List Node} :
    mode.FitsAt level (ns ++ ms) ↔ mode.FitsAt level ns ∧ mode.FitsAt level ms := by
  rw [HtmlMode.FitsAt, nodesAtLevel_append, List.forall_mem_append]
  rfl

/-- A list fits when its head and its tail do. -/
theorem fitsAt_cons {n : Node} {ns : List Node} :
    mode.FitsAt level (n :: ns) ↔ mode.FitsAt level [n] ∧ mode.FitsAt level ns :=
  @fitsAt_append mode level [n] ns

/-- At the limit, the node itself has to fit. -/
theorem fitsAt_zero_singleton {n : Node} : mode.FitsAt 0 [n] ↔ mode.FitsLimit n := by
  simp [HtmlMode.FitsAt, nodesAtLevel]

/-- Further up, its children have to, one level down. -/
theorem fitsAt_succ_singleton {n : Node} :
    mode.FitsAt (level + 1) [n] ↔ mode.FitsAt level n.childNodes := by
  rw [HtmlMode.FitsAt, nodesAtLevel_succ_singleton]
  rfl

/-- Above the limit, a node fits where its children do, one level further down. -/
theorem exists_fitsAt_childNodes {depth : Nat} (hdepth : depth + 1 ≤ depthLimit)
    (hlevel : depth + level = depthLimit) :
    ∃ k, depth + 1 + k = depthLimit ∧
      ∀ n : Node, mode.FitsAt level [n] ↔ mode.FitsAt k n.childNodes := by
  obtain ⟨k, rfl⟩ : ∃ k, level = k + 1 := ⟨level - 1, by omega⟩
  exact ⟨k, by omega, fun _ ↦ fitsAt_succ_singleton⟩

/-- A node without lists below it fits where it is no raw element. -/
theorem fitsAt_leaf {n : Node} (hchildren : n.childNodes = []) (hfits : mode.FitsLimit n) :
    mode.FitsAt level [n] := by
  cases level with
  | zero => exact fitsAt_zero_singleton.2 hfits
  | succ level =>
    rw [fitsAt_succ_singleton, hchildren]
    exact fitsAt_nil

end FitsAt

variable {o : Options} {r : Renderers} {depth level : Nat}

/-! ### Lists within the limit -/

/-- Within the limit, no inlines are rendered. -/
theorem succeeds_renderInlines_nil (h : depth ≤ depthLimit) :
    Succeeds (renderInlines o r depth []) :=
  ⟨[], renderInlines_nil h⟩

/-- Inlines are rendered when each is. -/
theorem succeeds_renderInlines_cons_iff (h : depth ≤ depthLimit) {n : Node} {ns : List Node} :
    Succeeds (renderInlines o r depth (n :: ns)) ↔
      Succeeds (renderInline o r depth n) ∧ Succeeds (renderInlines o r depth ns) := by
  rw [renderInlines, checkDepth_of_le h]
  exact succeeds_both_iff

/-- Within the limit, no blocks are rendered. -/
theorem succeeds_renderBlocks_nil (h : depth ≤ depthLimit) {tight : Bool} :
    Succeeds (renderBlocks o r depth tight []) :=
  ⟨[], renderBlocks_nil h⟩

/-- Blocks are rendered when each is. -/
theorem succeeds_renderBlocks_cons_iff (h : depth ≤ depthLimit) {tight : Bool} {n : Node}
    {ns : List Node} :
    Succeeds (renderBlocks o r depth tight (n :: ns)) ↔
      Succeeds (renderBlock o r depth tight n) ∧ Succeeds (renderBlocks o r depth tight ns) := by
  rw [renderBlocks, checkDepth_of_le h]
  exact succeeds_both_iff

/-- Items are rendered when the blocks of each are. -/
theorem succeeds_renderItems_iff {tight : Bool} {items : List (List Node)} :
    Succeeds (renderItems o r depth tight items) ↔
      ∀ item ∈ items, Succeeds (renderBlocks o r depth tight item) := by
  induction items with
  | nil =>
    rw [renderItems]
    simp
  | cons item items ih =>
    rw [renderItems, List.forall_mem_cons, ← ih]
    exact succeeds_both_iff

/-! ### Raw elements -/

/-- An element can be rendered where its children can, whatever the mode does with it. -/
theorem succeeds_htmlElement {tag : String} {attrs : List Attr} {children : List Node}
    {startSource endSource : String} {void : Bool}
    (h : Succeeds (renderInlines o r (depth + 1) children)) :
    Succeeds (renderInline o r depth
      (.htmlElement tag attrs children startSource endSource void)) := by
  rw [renderInline]
  split
  · exact succeeds_bind_ok_iff.2 h
  · split
    · exact succeeds_bind_ok_iff.2 h
    · split
      · exact succeeds_ok []
      · exact h
  · exact succeeds_bind_ok_iff.2 h

/-- Within the limit, an element that is not void can be rendered only where its children can. -/
theorem succeeds_children_of_htmlElement (hdepth : depth + 1 ≤ depthLimit) {tag : String}
    {attrs : List Attr} {children : List Node} {startSource endSource : String}
    (h : Succeeds (renderInline o r depth
      (.htmlElement tag attrs children startSource endSource false))) :
    Succeeds (renderInlines o r (depth + 1) children) := by
  rw [renderInline] at h
  split at h
  · exact succeeds_bind_ok_iff.1 h
  · split at h
    · exact succeeds_bind_ok_iff.1 h
    · split at h
      · rename_i hempty
        obtain rfl : children = [] := by simpa using hempty
        exact succeeds_renderInlines_nil hdepth
      · exact h
  · exact succeeds_bind_ok_iff.1 h

/-- At the limit, an element without children can be rendered where the mode drops it. -/
theorem succeeds_htmlElement_atLimit_iff {tag : String} {attrs : List Attr}
    {startSource endSource : String} {void : Bool} :
    Succeeds (renderInline o r depthLimit (.htmlElement tag attrs [] startSource endSource void)) ↔
      o.html.dropsEmpty tag = true := by
  have hchildren : renderInlines o r (depthLimit + 1) [] = .error .tooDeep := rfl
  rw [renderInline, hchildren]
  cases hmode : o.html with
  | parseUnsafe => simp [HtmlMode.dropsEmpty]
  | dontParse => simp [HtmlMode.dropsEmpty]
  | sanitize policy => cases hallowed : policy.allowsElement tag <;>
      simp [HtmlMode.dropsEmpty, hallowed]

/-! ### Nodes that were read -/

/-- Markup is converted within the limit only. -/
theorem le_depthLimit_of_ofMarkups {ms : List Markup} {ns : List Node}
    (h : ofMarkups depth ms = .ok ns) : depth ≤ depthLimit := by
  cases ms with
  | nil =>
    obtain ⟨_, hdepth, -⟩ := bind_eq_ok_iff.1 h
    exact Document.le_depthLimit_of_checkDepth hdepth
  | cons m ms =>
    obtain ⟨_, hdepth, -⟩ := bind_eq_ok_iff.1 h
    exact Document.le_depthLimit_of_checkDepth hdepth

mutual

/-- A node that is read is rendered where it was made, and fits there. -/
theorem fits_of_ofMarkup {depth level : Nat} {m : Markup} {n : Node}
    (hlevel : depth + level = depthLimit) (h : ofMarkup depth m = .ok n) :
    Succeeds (renderInline o r depth n) ∧ o.html.FitsAt level [n] := by
  cases m with
  | text value =>
    cases h
    exact ⟨succeeds_ok _, fitsAt_leaf rfl trivial⟩
  | element tag attrs content =>
    rw [ofMarkup] at h
    obtain ⟨children, hchildren, h⟩ := bind_eq_ok_iff.1 h
    cases h
    -- the children were checked, so the element does not stand at the limit
    obtain ⟨k, hk, hbelow⟩ :=
      exists_fitsAt_childNodes (le_depthLimit_of_ofMarkups hchildren) hlevel
    have hfits := fits_of_ofMarkups hk hchildren
    exact ⟨succeeds_htmlElement hfits.1, (hbelow _).2 hfits.2⟩

/-- What is read from HTML text within the limit can be rendered, and no element in it stands at
the limit. -/
theorem fits_of_ofMarkups {depth level : Nat} {ms : List Markup} {ns : List Node}
    (hlevel : depth + level = depthLimit) (h : ofMarkups depth ms = .ok ns) :
    Succeeds (renderInlines o r depth ns) ∧ o.html.FitsAt level ns := by
  have hdepth := le_depthLimit_of_ofMarkups h
  cases ms with
  | nil =>
    obtain ⟨-, -, h⟩ := bind_eq_ok_iff.1 h
    cases h
    exact ⟨succeeds_renderInlines_nil hdepth, fitsAt_nil⟩
  | cons m ms =>
    obtain ⟨n, ns, hn, hns, rfl⟩ := exists_of_checked_eq_ok h
    have hfirst := fits_of_ofMarkup hlevel hn
    have hrest := fits_of_ofMarkups hlevel hns
    exact ⟨(succeeds_renderInlines_cons_iff hdepth).2 ⟨hfirst.1, hrest.1⟩,
      fitsAt_cons.2 ⟨hfirst.2, hrest.2⟩⟩

end

/-! ### Nodes that were made from siblings -/

/-- What is known of an inline that conversion makes: it can be rendered exactly where the raw
elements at the limit fit. -/
def InlineFits (o : Options) (r : Renderers) (depth : Nat) (_ : List Syntax.Node) (n : Node) :
    Prop :=
  ∀ level, depth + level = depthLimit →
    (Succeeds (renderInline o r depth n) ↔ o.html.FitsAt level [n])

/-- What is known of a block that conversion makes, wherever it stands. -/
def BlockFits (o : Options) (r : Renderers) (depth : Nat) (_ : List Syntax.Node) (n : Node) :
    Prop :=
  ∀ level tight, depth + level = depthLimit →
    (Succeeds (renderBlock o r depth tight n) ↔ o.html.FitsAt level [n])

variable {siblings : List Syntax.Node} {ns : List Node}

/-- Inlines that fit one by one fit as a list. -/
theorem succeeds_renderInlines_iff (h : MadeAt (InlineFits o r) depth siblings ns)
    (hlevel : depth + level = depthLimit) :
    Succeeds (renderInlines o r depth ns) ↔ o.html.FitsAt level ns := by
  obtain ⟨hdepth, hmade⟩ := h
  induction hmade with
  | nil => exact iff_of_true (succeeds_renderInlines_nil hdepth) fitsAt_nil
  | cons head _ ih =>
    rw [succeeds_renderInlines_cons_iff hdepth, fitsAt_cons, head level hlevel, ih]

/-- So do blocks. -/
theorem succeeds_renderBlocks_iff (h : MadeAt (BlockFits o r) depth siblings ns) (tight : Bool)
    (hlevel : depth + level = depthLimit) :
    Succeeds (renderBlocks o r depth tight ns) ↔ o.html.FitsAt level ns := by
  obtain ⟨hdepth, hmade⟩ := h
  induction hmade with
  | nil => exact iff_of_true (succeeds_renderBlocks_nil hdepth) fitsAt_nil
  | cons head _ ih =>
    rw [succeeds_renderBlocks_cons_iff hdepth, fitsAt_cons, head level tight hlevel, ih]

/-- A node without lists below it, and no raw element, can be rendered and fits. -/
theorem inlineFits_leaf {n : Node} (hchildren : n.childNodes = []) (hfits : o.html.FitsLimit n)
    (h : Succeeds (renderInline o r depth n)) : InlineFits o r depth siblings n :=
  fun _ _ ↦ iff_of_true h (fitsAt_leaf hchildren hfits)

/-- An inline that is rendered by rendering its children fits where they do. -/
theorem inlineFits_of_children {n : Node}
    (h : MadeAt (InlineFits o r) (depth + 1) siblings n.childNodes)
    (hrender : Succeeds (renderInline o r depth n) ↔
      Succeeds (renderInlines o r (depth + 1) n.childNodes)) {stretch : List Syntax.Node} :
    InlineFits o r depth stretch n := by
  intro level hlevel
  obtain ⟨k, hk, hbelow⟩ := exists_fitsAt_childNodes h.depth_le hlevel
  rw [hrender, hbelow, succeeds_renderInlines_iff h hk]

/-- **A lone tag** fits unless it stands at the limit and is not dropped. -/
theorem inlineFits_lone {tag source : String} {attrs : List Attr} {void : Bool} :
    InlineFits o r depth siblings (.htmlElement tag attrs [] source "" void) := by
  intro level hlevel
  cases level with
  | zero =>
    obtain rfl : depth = depthLimit := hlevel
    rw [succeeds_htmlElement_atLimit_iff, fitsAt_zero_singleton]
    rfl
  | succ level =>
    have hchildren : Succeeds (renderInlines o r (depth + 1) []) :=
      succeeds_renderInlines_nil (by omega)
    exact iff_of_true (succeeds_htmlElement hchildren) (fitsAt_succ_singleton.2 fitsAt_nil)

/-- An element with both tags fits when its children do. -/
theorem inlineFits_paired {tag startSource endSource : String} {attrs : List Attr}
    {children : List Node} (h : MadeAt (InlineFits o r) (depth + 1) siblings children)
    {stretch : List Syntax.Node} :
    InlineFits o r depth stretch
      (.htmlElement tag attrs children startSource endSource false) :=
  inlineFits_of_children h
    ⟨succeeds_children_of_htmlElement h.depth_le, succeeds_htmlElement⟩

/-- A block without children fits everywhere. -/
theorem blockFits_leaf {n : Node} (hchildren : n.childNodes = []) (hfits : o.html.FitsLimit n)
    (h : ∀ tight, Succeeds (renderBlock o r depth tight n)) : BlockFits o r depth siblings n :=
  fun _ tight _ ↦ iff_of_true (h tight) (fitsAt_leaf hchildren hfits)

/-- A block that is rendered by rendering inlines fits where they do. -/
theorem blockFits_of_inlines {n : Node}
    (h : MadeAt (InlineFits o r) (depth + 1) siblings n.childNodes)
    (hrender : ∀ tight, Succeeds (renderBlock o r depth tight n) ↔
      Succeeds (renderInlines o r (depth + 1) n.childNodes)) {stretch : List Syntax.Node} :
    BlockFits o r depth stretch n := by
  intro level tight hlevel
  obtain ⟨k, hk, hbelow⟩ := exists_fitsAt_childNodes h.depth_le hlevel
  rw [hrender, hbelow, succeeds_renderInlines_iff h hk]

/-- A quotation fits when its blocks do. -/
theorem blockFits_blockQuote {children : List Node}
    (h : MadeAt (BlockFits o r) (depth + 1) siblings children) {stretch : List Syntax.Node} :
    BlockFits o r depth stretch (.blockQuote children) := by
  intro level tight hlevel
  obtain ⟨k, hk, hbelow⟩ := exists_fitsAt_childNodes h.depth_le hlevel
  have hrender : Succeeds (renderBlock o r depth tight (.blockQuote children)) ↔
      Succeeds (renderBlocks o r (depth + 1) false children) := succeeds_bind_ok_iff
  rw [hrender, hbelow, succeeds_renderBlocks_iff h false hk]
  rfl

/-- Items fit when the blocks of each do. -/
theorem succeeds_items_iff {parts : List Syntax.Node} {items : List (List Node)}
    (h : List.Forall₂ (fun part item ↦ MadeAt (BlockFits o r) depth part.children item) parts
      items)
    (tight : Bool) (hlevel : depth + level = depthLimit) :
    (∀ item ∈ items, Succeeds (renderBlocks o r depth tight item)) ↔
      o.html.FitsAt level items.flatten := by
  induction h with
  | nil => simp
  | cons head _ ih =>
    rw [List.forall_mem_cons, List.flatten_cons, fitsAt_append, ih,
      succeeds_renderBlocks_iff head tight hlevel]

/-- A list fits where its items do; without items it may stand at the limit. -/
theorem blockFits_list {parts : List Syntax.Node} {kind : Document.ListKind}
    {items : List (List Node)} {tight : Bool}
    (h : List.Forall₂ (fun part item ↦ MadeAt (BlockFits o r) (depth + 1) part.children item)
      parts items) {stretch : List Syntax.Node} :
    BlockFits o r depth stretch (.list kind items tight) := by
  intro level tight' hlevel
  have hrender : Succeeds (renderBlock o r depth tight' (.list kind items tight)) ↔
      ∀ item ∈ items, Succeeds (renderBlocks o r (depth + 1) tight item) :=
    succeeds_bind_ok_iff.trans succeeds_renderItems_iff
  rw [hrender]
  cases h with
  | nil => exact iff_of_true (List.forall_mem_nil _) (fitsAt_leaf rfl trivial)
  | cons head tail =>
    obtain ⟨k, hk, hbelow⟩ := exists_fitsAt_childNodes head.depth_le hlevel
    rw [hbelow, succeeds_items_iff (.cons head tail) tight hk]
    rfl

/-- An HTML block always fits. -/
theorem blockFits_htmlBlock {source : String} {markup : List Markup} {children : List Node}
    (h : ofMarkups (depth + 1) markup = .ok children) :
    BlockFits o r depth siblings (.htmlBlock source children) := by
  intro level tight hlevel
  obtain ⟨k, hk, hbelow⟩ := exists_fitsAt_childNodes (le_depthLimit_of_ofMarkups h) hlevel
  have hfits := fits_of_ofMarkups (o := o) (r := r) hk h
  refine iff_of_true ?_ ((hbelow _).2 hfits.2)
  rw [renderBlock]
  split
  · exact succeeds_ok _
  · exact hfits.1

/-- The leading part of a section is read, so whether the section fits depends on its blocks. -/
theorem blockFits_htmlSection {tag source startSource endSource : String} {attrs : List Attr}
    {leading children : List Node} (hstarts : Starts source tag (depth + 1) attrs leading)
    (h : MadeAt (BlockFits o r) (depth + 1) siblings children) {stretch : List Syntax.Node} :
    BlockFits o r depth stretch
      (.htmlSection tag attrs leading children startSource endSource) := by
  intro level tight hlevel
  obtain ⟨k, hk, hbelow⟩ := exists_fitsAt_childNodes h.depth_le hlevel
  obtain ⟨hleading, hfits⟩ :
      Succeeds (renderInlines o r (depth + 1) leading) ∧ o.html.FitsAt k leading := by
    obtain ⟨_, -, ⟨-, -, rfl⟩ | ⟨content, -, hcontent⟩⟩ := hstarts
    · exact ⟨succeeds_renderInlines_nil h.depth_le, fitsAt_nil⟩
    · exact fits_of_ofMarkups hk hcontent
  have hrender : Succeeds (renderBlock o r depth tight
      (.htmlSection tag attrs leading children startSource endSource)) ↔
        Succeeds (renderBlocks o r (depth + 1) false children) := by
    obtain ⟨nodes, hnodes⟩ := hleading
    rw [renderBlock, hnodes]
    split
    · exact succeeds_bind_ok_iff
    · exact succeeds_bind_ok_iff
    · split <;> exact succeeds_bind_ok_iff
  rw [hrender, hbelow, Node.childNodes, fitsAt_append, succeeds_renderBlocks_iff h false hk]
  exact (and_iff_right hfits).symm

/-- **Every rule of conversion makes nodes that are rendered where they fit.** -/
theorem conversionRules_fits (o : Options) (r : Renderers) :
    ConversionRules (InlineFits o r) (BlockFits o r) where
  text _ := inlineFits_leaf rfl trivial (succeeds_ok _)
  softBreak _ := inlineFits_leaf rfl trivial (succeeds_ok _)
  hardBreak _ := inlineFits_leaf rfl trivial (succeeds_ok _)
  codeSpan _ := inlineFits_leaf rfl trivial (succeeds_ok _)
  image _ := inlineFits_leaf rfl trivial (succeeds_ok _)
  emphasis _ h := inlineFits_of_children h succeeds_bind_ok_iff
  strong _ h := inlineFits_of_children h succeeds_bind_ok_iff
  link _ h := inlineFits_of_children h succeeds_bind_ok_iff
  rawHtml _ := inlineFits_leaf rfl trivial (by rw [renderInline]; split <;> exact succeeds_ok _)
  lone _ _ _ := inlineFits_lone
  paired _ _ _ _ _ h := inlineFits_paired h
  paragraph _ h := blockFits_of_inlines h fun _ ↦ succeeds_bind_ok_iff
  heading _ _ h := blockFits_of_inlines h fun _ ↦ succeeds_bind_ok_iff
  blockQuote _ h := blockFits_blockQuote h
  fence _ := blockFits_leaf rfl trivial fun _ ↦ succeeds_ok _
  codeBlock _ := blockFits_leaf rfl trivial fun _ ↦ succeeds_ok _
  bulletList _ h := blockFits_list h
  orderedList _ _ h := blockFits_list h
  thematicBreak _ := blockFits_leaf rfl trivial fun _ ↦ succeeds_ok _
  htmlBlock _ _ h := blockFits_htmlBlock h
  htmlSection _ _ _ _ hstarts h := blockFits_htmlSection hstarts h

/-- **When a document that comes from a syntax tree can be rendered.** Exactly when every raw
element that stands at the limit of depth is dropped by the mode. Otherwise rendering fails at the
limit of depth, and it never fails for another reason. -/
theorem renders_iff_fitsAt_limit {tree : List Syntax.Node} {blocks : List Node}
    (h : ofSyntax tree = .ok blocks) (o : Options) (r : Renderers) :
    ((∃ nodes, renderDocument o r blocks = .ok nodes) ↔ o.html.FitsAt depthLimit blocks) ∧
      ∀ e, renderDocument o r blocks = .error e → e = .tooDeep := by
  have hmade := (conversionRules_fits o r).madeAt_ofSyntax h
  have hsorted := Document.sortedBlocks_of_ofSyntax h
  exact ⟨succeeds_renderBlocks_iff hmade false (Nat.zero_add depthLimit),
    fun e he ↦ eq_tooDeep_of_renderDocument hsorted he⟩

/-! ### A line break in deep emphasis -/

/-- The tag of a line break inside so many levels of emphasis. -/
def emphasizedTag : Nat → Syntax.Node
  | 0 => { kind := .htmlInline, content := "<br>" }
  | levels + 1 => { kind := .em, children := [emphasizedTag levels] }

/-- The syntax tree of a paragraph with a line break inside so many levels of emphasis. -/
def deepBreak (levels : Nat) : List Syntax.Node :=
  [{ kind := .paragraph, children := [{ kind := .inline, children := [emphasizedTag levels] }] }]

/-- The element of a line break inside so many levels of emphasis. -/
def emphasizedBreak : Nat → Node
  | 0 => .htmlElement "br" [] [] "<br>" "" true
  | levels + 1 => .emphasis [emphasizedBreak levels]

theorem ofLoneTag_break : Document.ofLoneTag "<br>" = .ok (emphasizedBreak 0) := by
  with_unfolding_all rfl

/-- Conversion takes the line break as deep as the limit allows a list of inlines. -/
theorem ofInlines_emphasizedTag {levels : Nat} (h : depth + levels ≤ depthLimit) :
    Document.ofInlines (Document.inlineSiblings [emphasizedTag levels]) depth =
      .ok [emphasizedBreak levels] := by
  induction levels generalizing depth with
  | zero =>
    have hnode : Document.ofInlineNest depth
        (.leaf ⟨emphasizedTag 0, Document.ofInline (emphasizedTag 0)⟩) = .ok (emphasizedBreak 0) :=
      ofLoneTag_break
    rw [Document.ofInlines_singleton (by omega), hnode]
    rfl
  | succ levels ih =>
    have hbelow : Document.ofInlines (Document.inlineSiblings [emphasizedTag levels]) (depth + 1) =
        .ok [emphasizedBreak levels] :=
      ih (by omega)
    have hnode : Document.ofInlineNest depth
        (.leaf ⟨emphasizedTag (levels + 1), Document.ofInline (emphasizedTag (levels + 1))⟩) =
          (Document.ofInlines (Document.inlineSiblings [emphasizedTag levels]) (depth + 1)).map
            .emphasis := rfl
    rw [Document.ofInlines_singleton (by omega), hnode, hbelow]
    rfl

theorem ofSyntax_deepBreak {levels : Nat} (h : levels + 1 ≤ depthLimit) :
    ofSyntax (deepBreak levels) = .ok [.paragraph [emphasizedBreak levels]] := by
  have hparts : Document.ofParts [{ kind := .inline, children := [emphasizedTag levels] }] 1 =
      .ok [emphasizedBreak levels] :=
    ofInlines_emphasizedTag (by omega)
  rw [ofSyntax, Document.ofBlocks, Document.map_node_blockSiblings, deepBreak,
    Syntax.pairTags_singleton]
  simp only [Document.blockSiblings, Syntax.build_singleton, Document.ofBlockNests,
    Document.ofBlockNest, Document.ofBlock, hparts]
  rfl

/-- One level below the limit, the line break is refused where its children would be. -/
theorem renderInlines_emphasizedBreak {levels : Nat} (h : depth + levels = depthLimit)
    (soft : Bool) :
    renderInlines ⟨soft, .parseUnsafe⟩ r depth [emphasizedBreak levels] = .error .tooDeep := by
  induction levels generalizing depth with
  | zero =>
    obtain rfl : depth = depthLimit := h
    rfl
  | succ levels ih =>
    have hbelow : renderInlines ⟨soft, .parseUnsafe⟩ r (depth + 1) [emphasizedBreak levels] =
        .error .tooDeep :=
      ih (by omega)
    rw [renderInlines, checkDepth_of_le (by omega), emphasizedBreak, renderInline, hbelow]
    rfl

theorem fitsAt_emphasizedBreak {mode : HtmlMode} {levels : Nat} :
    mode.FitsAt levels [emphasizedBreak levels] ↔ mode.dropsEmpty "br" = true := by
  induction levels with
  | zero => exact fitsAt_zero_singleton
  | succ levels ih => exact fitsAt_succ_singleton.trans ih

/-- A line break inside ninety-nine levels of emphasis can be rendered where its tag is dropped. -/
theorem renders_loneBreak_dropped :
    ∃ blocks, ofSyntax (deepBreak 99) = .ok blocks ∧
      ∃ nodes, renderDocument ⟨false, .sanitize ⟨.empty, .empty⟩⟩ .standard blocks = .ok nodes := by
  have hconv : ofSyntax (deepBreak 99) = .ok [.paragraph [emphasizedBreak 99]] :=
    ofSyntax_deepBreak (by decide)
  have hfits : HtmlMode.FitsAt (.sanitize ⟨.empty, .empty⟩) (99 + 1)
      [.paragraph [emphasizedBreak 99]] :=
    fitsAt_succ_singleton.2 (fitsAt_emphasizedBreak.2 (by decide))
  exact ⟨_, hconv, (renders_iff_fitsAt_limit hconv _ _).1.2 hfits⟩

/-- A line break inside ninety-nine levels of emphasis converts and is refused in rendering. -/
theorem tooDeep_loneBreak :
    ∃ blocks, ofSyntax (deepBreak 99) = .ok blocks ∧
      renderDocument ⟨false, .parseUnsafe⟩ .standard blocks = .error .tooDeep := by
  refine ⟨_, ofSyntax_deepBreak (by decide), ?_⟩
  have hbelow : renderInlines ⟨false, .parseUnsafe⟩ .standard 1 [emphasizedBreak 99] =
      .error .tooDeep :=
    renderInlines_emphasizedBreak rfl false
  rw [renderDocument, renderBlocks, renderBlock, hbelow]
  rfl

end SafeMarkdown
