import Mathlib.Data.List.Forall2
import ResourceAudit.Proofs.Collection.Keyed
import ResourceAudit.Proofs.Markup.Order
import ResourceAudit.Resource.Document

/-!
# The account of a document

`Account` says what one element gives: an entry or none, and what is reported about it. Of
repeated children the last one counts, and each of the others is quoted by the one after it. A
document is read element by element in document order, and every element is accounted for by an
entry, a missing name or a missing value (`accounts_for_elements`). What lies below another child
of the root counts as well, so only a child without such elements can be left out
(`unchanged_without_child_iff`).
-/

namespace ResourceAudit

/-- How many errors of a code a result holds. -/
def Result.errorCount (code : Code) (r : Result) : Nat :=
  r.errors.countP (·.code == code)

theorem Result.errorCount_merge (code : Code) (r s : Result) :
    (r.merge s).errorCount code = r.errorCount code + s.errorCount code :=
  List.countP_append

/-- A code that no diagnostic has is no error of the result. -/
theorem Result.errorCount_eq_zero {code : Code} {ds : List Diagnostic}
    (h : ∀ d ∈ ds, d.code ≠ code) : (ofDiagnostics ds).errorCount code = 0 := by
  apply List.countP_eq_zero.mpr
  intro d hd
  have hne := h d (List.mem_filter.mp hd).1
  simpa using hne

namespace Reading

open Markup (Node)

/-- The text of the last child of a tag. -/
def lastContent (tag : String) (children : List (String × Node)) : Option String :=
  (Keyed.written Prod.fst children tag).getLast?.map fun child => child.2.content

/-- What is reported about a child of an entry, after the children before it. -/
inductive Remark (file name : String) (before : List (String × Node)) :
    String × Node → List Diagnostic → Prop
  | first {child : String × Node} (htag : child.1 = "value" ∨ child.1 = "comment")
      (hfirst : lastContent child.1 before = none) : Remark file name before child []
  | repeatedValue {child : String × Node} {previous : String} (htag : child.1 = "value")
      (hprevious : lastContent "value" before = some previous) :
      Remark file name before child
        [(Finding.resourceValueDuplicated name previous).asError (some file)]
  | repeatedComment {child : String × Node} {previous : String} (htag : child.1 = "comment")
      (hprevious : lastContent "comment" before = some previous) :
      Remark file name before child
        [(Finding.resourceCommentDuplicated name previous).asError (some file)]
  | unexpected {child : String × Node} (hvalue : child.1 ≠ "value")
      (hcomment : child.1 ≠ "comment") :
      Remark file name before child [(Finding.unexpectedNode name child.1).asWarning (some file)]

/-- What is reported about children of an entry in their order, after the children before. -/
inductive Remarks (file name : String) : List (String × Node) → List (String × Node) →
    List Diagnostic → Prop
  | nil {before : List (String × Node)} : Remarks file name before [] []
  | cons {before rest : List (String × Node)} {child : String × Node}
      {new ds : List Diagnostic} (hchild : Remark file name before child new)
      (hrest : Remarks file name (before ++ [child]) rest ds) :
      Remarks file name before (child :: rest) (new ++ ds)

/-- What an element gives: an entry or none, and what is reported about it. -/
inductive Account (file : String) (node : Node) : Option Entry → List Diagnostic → Prop
  | nameless (hname : node.attribute? "name" = none) :
      Account file node none [Finding.resourceNameMissing.asError (some file)]
  | valueless {name : String} {ds : List Diagnostic} (hname : node.attribute? "name" = some name)
      (hremarks : Remarks file (Text.strip name) [] node.taggedChildren ds)
      (hvalue : lastContent "value" node.taggedChildren = none) :
      Account file node none
        (ds ++ [(Finding.resourceValueMissing (Text.strip name)).asError (some file)])
  | entry {name value : String} {ds : List Diagnostic}
      (hname : node.attribute? "name" = some name)
      (hremarks : Remarks file (Text.strip name) [] node.taggedChildren ds)
      (hvalue : lastContent "value" node.taggedChildren = some value) :
      Account file node
        (some ⟨Text.strip name, value, lastContent "comment" node.taggedChildren,
          (node.attribute? "type").map Text.strip⟩) ds

/-- The account of an element, with its two parts in a pair. -/
def Accounted (file : String) (node : Node) (account : Option Entry × List Diagnostic) : Prop :=
  Account file node account.1 account.2

variable {file name : String} {before children : List (String × Node)} {child : String × Node}
  {node : Node} {e : Option Entry} {ds : List Diagnostic}

/-! ## Children -/

theorem lastContent_concat_self :
    lastContent child.1 (before ++ [child]) = some child.2.content := by
  unfold lastContent
  rw [Keyed.written_concat_self, List.getLast?_concat]
  rfl

theorem lastContent_concat_of_ne {tag : String} (h : tag ≠ child.1) :
    lastContent tag (before ++ [child]) = lastContent tag before := by
  unfold lastContent
  rw [Keyed.written_concat_of_ne _ _ _ h]

theorem Remark.unique {ds' : List Diagnostic} (h : Remark file name before child ds)
    (h' : Remark file name before child ds') : ds = ds' := by
  cases h <;> cases h' <;> simp_all

theorem Remarks.unique {ds' : List Diagnostic} (h : Remarks file name before children ds)
    (h' : Remarks file name before children ds') : ds = ds' := by
  induction h generalizing ds' with
  | nil =>
      cases h'
      rfl
  | cons hchild _ ih =>
      cases h' with
      | cons hchild' hrest' => rw [hchild.unique hchild', ih hrest']

/-- The fields hold what the last child of each tag says. -/
structure Fields.Latest (fields : Fields) (children : List (String × Node)) : Prop where
  value : fields.value = lastContent "value" children
  comment : fields.comment = lastContent "comment" children

/-- A child replaces what an earlier one of its tag has said, and is remarked on. -/
theorem latest_addChild {fields : Fields} (h : fields.Latest before) (file name : String)
    (child : String × Node) :
    (addChild name fields child).Latest (before ++ [child]) ∧
      ∃ new, (addChild name fields child).findings = fields.findings ++ new ∧
        Remark file name before child (reported file new) := by
  obtain ⟨tag, node⟩ := child
  unfold addChild
  by_cases hvalue : tag = "value"
  · subst hvalue
    rw [if_pos rfl]
    refine ⟨⟨lastContent_concat_self.symm, ?_⟩, _, rfl, ?_⟩
    · rw [lastContent_concat_of_ne (by simp)]
      exact h.comment
    · rw [h.value]
      cases hprevious : lastContent "value" before with
      | none => exact .first (.inl rfl) hprevious
      | some previous => exact .repeatedValue rfl hprevious
  by_cases hcomment : tag = "comment"
  · subst hcomment
    rw [if_neg hvalue, if_pos rfl]
    refine ⟨⟨?_, lastContent_concat_self.symm⟩, _, rfl, ?_⟩
    · rw [lastContent_concat_of_ne (by simp)]
      exact h.value
    · rw [h.comment]
      cases hprevious : lastContent "comment" before with
      | none => exact .first (.inr rfl) hprevious
      | some previous => exact .repeatedComment rfl hprevious
  · rw [if_neg hvalue, if_neg hcomment]
    refine ⟨⟨?_, ?_⟩, _, rfl, .unexpected hvalue hcomment⟩
    · rw [lastContent_concat_of_ne (Ne.symm hvalue)]
      exact h.value
    · rw [lastContent_concat_of_ne (Ne.symm hcomment)]
      exact h.comment

/-- The same for children in a row. -/
theorem latest_foldl {fields : Fields} (h : fields.Latest before) (file name : String)
    (children : List (String × Node)) :
    (children.foldl (addChild name) fields).Latest (before ++ children) ∧
      ∃ new, (children.foldl (addChild name) fields).findings = fields.findings ++ new ∧
        Remarks file name before children (reported file new) := by
  induction children generalizing before fields with
  | nil =>
      rw [List.append_nil]
      exact ⟨h, [], (List.append_nil _).symm, .nil⟩
  | cons child rest ih =>
      obtain ⟨hlatest, first, hfirst, hremark⟩ := latest_addChild h file name child
      obtain ⟨hall, others, hothers, hremarks⟩ := ih hlatest
      rw [List.append_assoc] at hall
      refine ⟨hall, first ++ others, ?_, ?_⟩
      · rw [List.foldl_cons, hothers, hfirst, List.append_assoc]
      · unfold reported
        rw [List.map_append]
        exact .cons hremark hremarks

theorem latest_all (file name : String) (children : List (String × Node)) :
    ∃ findings, children.foldl (addChild name) ⟨none, none, []⟩ =
        ⟨lastContent "value" children, lastContent "comment" children, findings⟩ ∧
      Remarks file name [] children (reported file findings) := by
  have hnone : Fields.Latest ⟨none, none, []⟩ [] := ⟨rfl, rfl⟩
  obtain ⟨⟨hvalue, hcomment⟩, findings, hfindings, hremarks⟩ :=
    latest_foldl hnone file name children
  refine ⟨findings, ?_, hremarks⟩
  rw [Fields.mk.injEq]
  exact ⟨hvalue, hcomment, hfindings⟩

/-! ## Elements -/

theorem Account.unique {e' : Option Entry} {ds' : List Diagnostic}
    (h : Account file node e ds) (h' : Account file node e' ds') : e = e' ∧ ds = ds' := by
  cases h with
  | nameless hname => cases h' <;> simp_all
  | valueless hname hremarks hvalue =>
      cases h' with
      | nameless hname' => simp_all
      | valueless hname' hremarks' _ =>
          cases hname.symm.trans hname'
          exact ⟨rfl, by rw [hremarks.unique hremarks']⟩
      | entry _ _ hvalue' => simp_all
  | entry hname hremarks hvalue =>
      cases h' with
      | nameless hname' => simp_all
      | valueless _ _ hvalue' => simp_all
      | entry hname' hremarks' hvalue' =>
          cases hname.symm.trans hname'
          cases hvalue.symm.trans hvalue'
          exact ⟨rfl, hremarks.unique hremarks'⟩

/-- Reading an element gives its account. -/
theorem accounted_entryOf (file : String) (node : Node) :
    Accounted file node ((entryOf node).1, reported file (entryOf node).2) := by
  unfold entryOf
  cases hname : node.attribute? "name" with
  | none => exact .nameless hname
  | some name =>
      obtain ⟨findings, hfields, hremarks⟩ := latest_all file (Text.strip name) node.taggedChildren
      dsimp only
      rw [hfields]
      dsimp only
      cases hvalue : lastContent "value" node.taggedChildren with
      | none =>
          dsimp only
          unfold reported
          rw [List.map_append]
          exact .valueless hname hremarks hvalue
      | some value => exact .entry hname hremarks hvalue

theorem accounted_iff {account : Option Entry × List Diagnostic} :
    Accounted file node account ↔
      ((entryOf node).1, reported file (entryOf node).2) = account := by
  constructor
  · intro h
    obtain ⟨hentry, hreported⟩ := Account.unique (accounted_entryOf file node) h
    exact Prod.ext hentry hreported
  · rintro rfl
    exact accounted_entryOf file node

theorem Remark.code_ne (h : Remark file name before child ds) :
    ∀ d ∈ ds, d.code ≠ .resourceNameMissing ∧ d.code ≠ .resourceValueMissing := by
  cases h <;> simp [Finding.asError, Finding.asWarning, Finding.diagnostic, Finding.code,
    Diagnostic.reported]

/-- No remark on children reports a missing name or a missing value. -/
theorem Remarks.code_ne (h : Remarks file name before children ds) :
    ∀ d ∈ ds, d.code ≠ .resourceNameMissing ∧ d.code ≠ .resourceValueMissing := by
  induction h with
  | nil =>
      intro d hd
      exact absurd hd List.not_mem_nil
  | cons hchild _ ih =>
      intro d hd
      rcases List.mem_append.mp hd with hd | hd
      · exact hchild.code_ne d hd
      · exact ih d hd

theorem Remarks.errorCount (h : Remarks file name before children ds) :
    (Result.ofDiagnostics ds).errorCount .resourceNameMissing = 0 ∧
      (Result.ofDiagnostics ds).errorCount .resourceValueMissing = 0 :=
  ⟨Result.errorCount_eq_zero fun d hd => (h.code_ne d hd).1,
    Result.errorCount_eq_zero fun d hd => (h.code_ne d hd).2⟩

/-- An element has an entry, a missing name or a missing value, and one of these only. -/
theorem Account.balance (h : Account file node e ds) :
    e.toList.length + (Result.ofDiagnostics ds).errorCount .resourceNameMissing +
      (Result.ofDiagnostics ds).errorCount .resourceValueMissing = 1 := by
  cases h with
  | nameless => rfl
  | valueless _ hremarks _ =>
      obtain ⟨hnames, hvalues⟩ := hremarks.errorCount
      rw [Result.ofDiagnostics_append, Result.errorCount_merge, Result.errorCount_merge, hnames,
        hvalues]
      rfl
  | entry _ hremarks _ =>
      obtain ⟨hnames, hvalues⟩ := hremarks.errorCount
      rw [hnames, hvalues]
      rfl

/-! ## Documents -/

section Document

variable {found : List Node} {accounts : List (Option Entry × List Diagnostic)}

theorem forall₂_accounted_iff :
    List.Forall₂ (Accounted file) found accounts ↔
      accounts = found.map fun node => ((entryOf node).1, reported file (entryOf node).2) := by
  induction found generalizing accounts with
  | nil => simp
  | cons node found ih =>
      rw [List.forall₂_cons_left_iff]
      constructor
      · rintro ⟨account, accounts, hnode, hrest, rfl⟩
        rw [List.map_cons, accounted_iff.mp hnode, ih.mp hrest]
      · rintro rfl
        exact ⟨_, _, accounted_entryOf file node, ih.mpr rfl, rfl⟩

theorem forall₂_accounted (file : String) (found : List Node) :
    List.Forall₂ (Accounted file) found
      (found.map fun node => ((entryOf node).1, reported file (entryOf node).2)) :=
  forall₂_accounted_iff.mpr rfl

/-- The elements are as many as the entries, the missing names and the missing values. -/
theorem length_eq_of_accounted (h : List.Forall₂ (Accounted file) found accounts) :
    found.length = (accounts.filterMap Prod.fst).length +
      (Result.ofDiagnostics (accounts.flatMap Prod.snd)).errorCount .resourceNameMissing +
      (Result.ofDiagnostics (accounts.flatMap Prod.snd)).errorCount .resourceValueMissing := by
  induction h with
  | nil => rfl
  | @cons node account found accounts hnode _ ih =>
      have hbalance := Account.balance hnode
      have hentries : ((account :: accounts).filterMap Prod.fst).length =
          account.1.toList.length + (accounts.filterMap Prod.fst).length := by
        obtain ⟨entry, ds⟩ := account
        cases entry with
        | none => simp
        | some entry => simp [Nat.add_comm]
      rw [List.length_cons, List.flatMap_cons, Result.ofDiagnostics_append,
        Result.errorCount_merge, Result.errorCount_merge, hentries, ih]
      omega

/-- The entries are those of some of the elements, in the order of these. -/
theorem exists_kept_of_accounted (h : List.Forall₂ (Accounted file) found accounts) :
    ∃ kept, kept.Sublist found ∧
      List.Forall₂ (fun node e => ∃ ds, Account file node (some e) ds) kept
        (accounts.filterMap Prod.fst) := by
  induction h with
  | nil => exact ⟨[], .slnil, .nil⟩
  | @cons node account found accounts hnode _ ih =>
      obtain ⟨kept, hkept, hentries⟩ := ih
      obtain ⟨entry, ds⟩ := account
      cases entry with
      | none => exact ⟨kept, hkept.cons node, hentries⟩
      | some entry => exact ⟨node :: kept, hkept.cons_cons node, .cons ⟨ds, hnode⟩ hentries⟩

end Document

theorem ofTree_root (file : String) (attributes : List (String × String))
    (children : List Node) :
    ofTree file (.element rootTag attributes children) =
      let read := (Node.elementsAll entryTag children).map entryOf
      ⟨read.filterMap Prod.fst, .ofDiagnostics (reported file (read.map Prod.snd).flatten)⟩ :=
  if_neg (not_not_intro rfl)

theorem ofTree_eq_accounts {accounts : List (Option Entry × List Diagnostic)}
    (file : String) (attributes : List (String × String)) (children : List Node)
    (h : List.Forall₂ (Accounted file) (Node.elementsAll entryTag children) accounts) :
    ofTree file (.element rootTag attributes children) =
      ⟨accounts.filterMap Prod.fst, .ofDiagnostics (accounts.flatMap Prod.snd)⟩ := by
  rw [ofTree_root, forall₂_accounted_iff.mp h]
  dsimp only
  rw [List.filterMap_map, List.filterMap_map, List.flatMap_map]
  unfold reported
  rw [List.map_flatten, List.map_map, List.map_map]
  rfl

/-- The elements of a document are as many as the entries, the missing names and the missing
values of its reading. -/
theorem length_elements_eq (file : String) (attributes : List (String × String))
    (children : List Node) :
    let reading := ofTree file (.element rootTag attributes children)
    (Node.elementsAll entryTag children).length = reading.entries.length +
      reading.result.errorCount .resourceNameMissing +
      reading.result.errorCount .resourceValueMissing := by
  have haccounts := forall₂_accounted file (Node.elementsAll entryTag children)
  rw [ofTree_eq_accounts file attributes children haccounts]
  exact length_eq_of_accounted haccounts

/-- Every element of a document is accounted for, in document order. -/
theorem accounts_for_elements (file : String) (attributes : List (String × String))
    (children : List Node) :
    let root := Node.element rootTag attributes children
    let reading := ofTree file root
    ∃ found accounts,
      root.InOrder (Node.HasTag entryTag) found ∧
      (∀ others, List.Forall₂ (Accounted file) found others ↔ others = accounts) ∧
      reading = ⟨accounts.filterMap Prod.fst, .ofDiagnostics (accounts.flatMap Prod.snd)⟩ ∧
      found.length = reading.entries.length +
        reading.result.errorCount .resourceNameMissing +
        reading.result.errorCount .resourceValueMissing ∧
      ∃ kept, kept.Sublist found ∧
        List.Forall₂ (fun node e => ∃ ds, Account file node (some e) ds) kept reading.entries := by
  intro root reading
  have horder : root.InOrder (Node.HasTag entryTag) (Node.elementsAll entryTag children) :=
    Node.inOrder_elements entryTag root
  have haccounts := forall₂_accounted file (Node.elementsAll entryTag children)
  have hreading := ofTree_eq_accounts file attributes children haccounts
  have hentries : reading.entries = _ := congrArg Reading.entries hreading
  refine ⟨_, _, horder, fun others => forall₂_accounted_iff, hreading,
    length_elements_eq file attributes children, ?_⟩
  rw [hentries]
  exact exists_kept_of_accounted haccounts

/-- A child of the root counts for nothing exactly if no entry is at or below it. -/
theorem unchanged_without_child_iff (file : String) (attributes : List (String × String))
    (front : List Node) (child : Node) (back : List Node) :
    ofTree file (.element rootTag attributes (front ++ child :: back)) =
        ofTree file (.element rootTag attributes (front ++ back)) ↔
      ∀ address m, child.at? address = some m → ¬ m.HasTag entryTag := by
  rw [← Node.elements_eq_nil_iff]
  have hparts : Node.elementsAll entryTag (front ++ child :: back) =
      Node.elementsAll entryTag front ++
        (child.elements entryTag ++ Node.elementsAll entryTag back) :=
    Node.elementsAll_append entryTag front (child :: back)
  have hrest := Node.elementsAll_append entryTag front back
  constructor
  · intro heq
    -- Equal readings account for equally many elements.
    have hwith := length_elements_eq file attributes (front ++ child :: back)
    have hwithout := length_elements_eq file attributes (front ++ back)
    rw [heq] at hwith
    have hlengths := hwith.trans hwithout.symm
    rw [hparts, hrest, List.length_append, List.length_append, List.length_append] at hlengths
    exact List.eq_nil_of_length_eq_zero (by omega)
  · intro hnone
    rw [ofTree_root, ofTree_root, hparts, hrest, hnone, List.nil_append]

/-- An entry inside another child of the root is read as one. -/
theorem nested_entry_counts :
    ofSource .bare "a.resx" (.text ("<root><metadata name=\"m\"><data name=\"a\">" ++
        "<value>b</value></data></metadata></root>")) =
      .ok (.read ⟨[⟨"a", "b", none, none⟩], .empty⟩) ∧
    ofSource .bare "a.resx" (.text "<root></root>") = .ok (.read ⟨[], .empty⟩) := by
  decide +kernel

end Reading

end ResourceAudit
