import ContentSync.Proofs.SparedContent
import ContentSync.Import.Importer
import Mathlib.Tactic.SplitIfs
import Mathlib.Data.List.Infix

/-!
# What an import pass leaves alone

An import pass offers every entry's artifact set to the content handler and to the folder
handler, and saves the session at the end. This module shows that a successful pass leaves a
node that the filter leaves out in the state it was in (`run_keeps_unfiltered_node`), under
conditions that each rule out a way the pass reaches such nodes:

* the node lies outside the version storage, which a version import replaces as a whole;
* no node above it is in the filter's scope with import mode replace (`OutOfScope`): folder
  reconciliation removes such a node with its whole subtree, filtered out or not;
* access control content is ignored or merged: under the other handlings, clearing one
  policy of a folder clears all of them and the folder's mixin, in scope or not;
* the entries address their nodes by canonical paths and their documents have valid names:
  the filter is consulted on path texts, and a text that is not canonical can fall outside
  the filter's exclusions while addressing an excluded node.

The proof follows one watched node through the pass with `Node.KeptAt`: each handler spares
it (`RepoM.Spares`), so each entry does, and the pass, which keeps the state of its last entry
when it succeeds, does too.
-/

namespace ContentSync

open Node RepoM

variable {q : List String} {m0 : Node}

/-! ## Replacing the version storage -/

namespace Node

/-- Putting a child in place looks up every other name as before. -/
theorem find?_putChild_go {c : Node} {b : String} (h : c.name ≠ b) (cs : List Node) :
    (putChild.go c cs).find? (·.name = b) = cs.find? (·.name = b) := by
  induction cs with
  | nil => simp [putChild.go, h]
  | cons d ds ih =>
    rw [putChild.go]
    split
    · rename_i hd
      have hdb : d.name ≠ b := by
        rw [hd]
        exact h
      simp [hdb, h]
    · rw [List.find?_cons, List.find?_cons, ih]

/-- The children after putting one in place are old children or the new one. -/
theorem mem_putChild_go {c d : Node} : ∀ {cs : List Node}, d ∈ putChild.go c cs → d ∈ cs ∨ d = c
  | [], h => by
    rw [putChild.go, List.mem_singleton] at h
    exact Or.inr h
  | e :: es, h => by
    rw [putChild.go] at h
    split at h
    · rcases List.mem_cons.mp h with rfl | h
      · exact Or.inr rfl
      · exact Or.inl (List.mem_cons_of_mem e h)
    · rcases List.mem_cons.mp h with rfl | h
      · exact Or.inl List.mem_cons_self
      · exact (mem_putChild_go h).imp_left (List.mem_cons_of_mem e)

theorem child?_putChild_of_ne {c : Node} {b : String} (h : c.name ≠ b) (n : Node) :
    (n.putChild c).child? b = n.child? b :=
  find?_putChild_go h n.children

/-- Putting a validly named child in place at `t` keeps the watched node when that child is not
on the way to it. -/
theorem KeptAt.updateAlong_putChild {t : List String} {c root : Node} (h : KeptAt q m0 root)
    (hc : Path.ValidName c.name) (hq : ¬ t ++ [c.name] <+: q) :
    KeptAt q m0 (root.updateAlong (·.putChild c) t) := by
  refine h.updateAlong (fun _ => rfl) (fun m _ _ => ⟨rfl, rfl, rfl⟩) (fun m b _ hb => ?_)
    fun m _ _ hnames d hd => ?_
  · have hcb : c.name ≠ b := by
      rintro rfl
      exact hq hb
    exact child?_putChild_of_ne hcb m
  · rcases mem_putChild_go hd with hd | rfl
    · exact hnames d hd
    · exact hc

end Node

/-- Committing a staged version storage spares every node outside the storage: it may add the
system node below the root, and then puts the storage in place below it. -/
theorem spares_commitVersionStorage (storage : Staged)
    (hstore : ¬ [Known.system, Known.versionStorage] <+: q) :
    Spares q m0 (commitVersionStorage storage) := by
  intro r hr
  unfold commitVersionStorage
  rw [bind_of_ok get_run]
  have hsystem : Path.segments (Path.join "/" Known.system) = [Known.system] := by decide
  have hvalid : Path.ValidName Known.versionStorage := by decide
  have hput : ∀ r', KeptAt q m0 r'.root → KeptAt q m0 (final (modifyNode (Path.join "/" Known.system)
      (·.putChild { storage.build with name := Known.versionStorage }) r')).root := by
    intro r' hr'
    rw [final_modifyNode, hsystem]
    exact hr'.updateAlong_putChild hvalid hstore
  dsimp only
  split
  · -- the system node is appended below the root first
    have hsys : KeptAt q m0 (r.root.updateAlong (appendChild (empty Known.system Known.repSystem)) []) :=
      hr.updateAlong_appendChild (by decide)
    rw [updateAlong_nil] at hsys
    rw [bind_of_ok (set_run _)]
    exact hput _ hsys
  · exact hput r hr

theorem spares_versionStorage : Spares q m0 versionStorage := by
  unfold versionStorage
  refine spares_get.bind fun _ => ?_
  split <;> exact spares_pure _

/-- Starting a version history only reads the document and draws an identifier. -/
theorem spares_startHistory (storage : Staged) (e : Element) :
    Spares q m0 (startHistory storage e) := by
  unfold startHistory
  refine (spares_ofExcept _).bind fun _ => ?_
  dsimp only
  split
  · exact spares_throw_bind _ _
  · -- a known history is only looked up; a new one draws an identifier
    split_ifs
    · exact spares_pure _
    · split
      · exact (spares_ofExcept _).bind fun _ => spares_freshIdentifier.bind fun _ => spares_pure _
      · exact (spares_pure _).bind fun _ => spares_freshIdentifier.bind fun _ => spares_pure _

/-- Opening an element of a version document only reads it and stages what it says. -/
theorem spares_openFrame (storage : Staged) (parent : VersionFrame) (e : Element) :
    Spares q m0 (openFrame storage parent e) := by
  unfold openFrame
  refine (spares_ofExcept _).bind fun _ => ?_
  split
  · split
    · exact (spares_startHistory _ _).bind fun _ => spares_pure _
    · exact spares_pure _
  · split
    · exact (spares_ofExcept _).bind fun _ => spares_pure _
    · split
      · exact (spares_ofExcept _).bind fun _ => spares_pure _
      · exact spares_pure _
  · split
    · exact (spares_ofExcept _).bind fun _ => spares_pure _
    · exact spares_pure _
  · exact (spares_ofExcept _).bind fun _ => spares_pure _
  · exact spares_pure _

/-- Applying the events of a version document only stages them. -/
theorem spares_applyVersionEvents (fuel : Nat) :
    ∀ (reader : ElementReader) (stack : List VersionFrame) (seenRoot : Bool) (storage : Staged),
      Spares q m0 (applyVersionEvents fuel reader stack seenRoot storage) := by
  induction fuel with
  | zero =>
    intro reader stack seenRoot storage
    rw [applyVersionEvents]
    exact spares_pure _
  | succ fuel ih =>
    intro reader stack seenRoot storage
    rw [applyVersionEvents]
    refine (spares_ofExcept _).bind fun _ => ?_
    dsimp only
    split
    · split
      · exact spares_throw_bind _ _
      · exact spares_pure _
    · split
      · split
        · exact spares_throw_bind _ _
        · split
          · exact spares_throw_bind _ _
          · exact ih _ _ _ _
      · exact (spares_openFrame _ _ _).bind fun _ => ih _ _ _ _
    · split
      · exact spares_throw _
      · exact ih _ _ _ _

/-- Importing a version history spares every node outside the version storage. -/
theorem spares_importVersions (data : List UInt8)
    (hstore : ¬ [Known.system, Known.versionStorage] <+: q) :
    Spares q m0 (importVersions data) := by
  unfold importVersions
  refine spares_versionStorage.bind fun _ => (spares_applyVersionEvents _ _ _ _ _).bind fun _ =>
    spares_get.bind fun _ => ?_
  split
  · exact spares_pure _
  · exact (spares_commitVersionStorage _ hstore).bind fun _ => spares_pure _

/-! ## Folders -/

/-- Reconciling the folder at a canonical path spares every node that the filter leaves out and
that has no node above it replaced, when access control content is ignored or merged: the sync
removes only children in the filter's scope in replace mode. -/
theorem spares_syncFolderChildren {ac : AccessControlHandling} {f : WorkspaceFilter}
    {parent path : String} (set : ArtifactSet) (hac : ac = .ignore ∨ ac = .merge)
    (hq : OutOfScope f q) (hpath : Path.Canonical path) :
    Spares q m0 (syncFolderChildren ac f parent path set) := by
  obtain ⟨names, hnames, rfl⟩ := hpath
  have hremoves : ac.removesExisting = false := by
    rcases hac with rfl | rfl <;> rfl
  have hclear : ac ≠ .clear := by
    rcases hac with rfl | rfl <;> decide
  unfold syncFolderChildren
  refine (spares_requireNode _).bind_of_run fun r folder _ hr hfolder => ?_
  obtain ⟨hat, -⟩ := (requireNode_eq_ok rfl).mp hfolder
  rw [Path.segments_render hnames] at hat
  -- a child the sync may remove is in scope in replace mode, hence aside from the watched node
  have haside : ∀ c ∈ folder.children,
      f.contains (Path.join (Path.render names) c.name) = true →
      f.importMode (Path.join (Path.render names) c.name) = .replace →
      Aside q (Path.join (Path.render names) c.name) := by
    intro c hc hin hmode
    by_cases hpre : names <+: q
    · have hcv : Path.ValidName c.name := hr.named names hpre folder hat c hc
      have hall : ∀ n ∈ names ++ [c.name], Path.ValidName n := by
        intro n hn
        rcases List.mem_append.mp hn with hn | hn
        · exact hnames n hn
        · rw [List.mem_singleton.mp hn]
          exact hcv
      rw [Path.join_render hnames hcv] at hin hmode ⊢
      exact hq.aside hall hin hmode
    · have hfolderAside : Aside q (Path.render names) := by
        intro h
        rw [Path.segments_render hnames] at h
        exact hpre h
      exact hfolderAside.join c.name
  refine (Spares.forIn (fun x hx _ => ?_) _).bind fun _ => spares_pure _
  obtain ⟨c, hc, rfl⟩ := List.mem_map.mp hx
  dsimp only
  split
  · exact spares_pure _
  · rename_i hkeep
    simp only [Bool.or_eq_true, Bool.not_eq_true', decide_eq_true_eq, not_or, Bool.not_eq_false,
      ne_eq, Classical.not_not] at hkeep
    obtain ⟨hin', hmode⟩ := hkeep
    split
    · split
      · split
        · rename_i hrem
          rw [hremoves] at hrem
          cases hrem
        · exact spares_pure _
      · exact (spares_removeNode (haside c hc hin' hmode)).bind fun _ => spares_pure _
    · split
      · rename_i hclr
        simp only [Bool.and_eq_true, decide_eq_true_eq] at hclr
        exact absurd hclr.1 hclear
      · exact spares_pure _

/-- Importing a folder below a canonical parent spares every node that the filter leaves out,
that has no node above it replaced and that lies outside the version storage, when access
control content is ignored or merged and the directory's name is valid or empty. -/
theorem spares_acceptFolder (folderType : String) {ac : AccessControlHandling}
    {f : WorkspaceFilter} {parent : String} {set : ArtifactSet} (hac : ac = .ignore ∨ ac = .merge)
    (hq : OutOfScope f q) (hstore : ¬ [Known.system, Known.versionStorage] <+: q)
    (hparent : Path.Canonical parent)
    (hdir : ∀ d, set.directory? = some d → Path.NameOrEmpty d.relativePath) :
    Spares q m0 (acceptFolder folderType ac f parent set) := by
  unfold acceptFolder
  split
  · exact spares_pure _
  · rename_i directory hdirectory
    dsimp only
    split
    · exact spares_pure _
    · split
      · exact spares_pure _
      · refine (spares_nodeExists _).bind fun _ => ?_
        split
        · exact (spares_addNode _ _ _).bind fun _ => spares_pure _
        · split
          · split
            · exact spares_pure _
            · refine spares_get.bind fun _ => (spares_ofExcept _).bind fun _ =>
                (spares_importVersions _ hstore).bind fun _ => ?_
              split <;> exact spares_pure _
          · exact (spares_syncFolderChildren set hac hq
              (hparent.join (hdir directory hdirectory))).bind fun _ => spares_pure _

/-! ## The import pass -/

/-- An entry addresses its node canonically: its parent is a canonical path, and its name and
the relative paths of its artifacts are valid names or empty. -/
structure ImportEntry.Canonical (e : ImportEntry) : Prop where
  parent : Path.Canonical e.parent
  name : Path.NameOrEmpty e.name
  artifacts : ∀ a ∈ e.artifacts.artifacts, Path.NameOrEmpty a.relativePath

/-- Every document that the entry's primary artifact can be read as, from any tree, has validly
named nodes. -/
def ImportEntry.NamedDocuments (e : ImportEntry) : Prop :=
  ∀ a, e.artifacts.primary? = some a → ∀ tree data doc, a.content tree = .ok data →
    parseDocView data = .ok doc → Everywhere ValidChildNames doc

theorem ArtifactSet.mem_of_first? {set : ArtifactSet} {t : ArtifactType} {a : Artifact}
    (h : set.first? t = some a) : a ∈ set.artifacts :=
  List.mem_of_find?_eq_some h

/-- Importing a canonical entry with validly named documents spares every node outside the
version storage that the filter leaves out and that has no node above it replaced, when access
control content is ignored or merged. -/
theorem spares_importSet (imp : Importer) {f : WorkspaceFilter} {e : ImportEntry}
    (hac : imp.options.acHandling = .ignore ∨ imp.options.acHandling = .merge)
    (hq : OutOfScope f q) (hstore : ¬ [Known.system, Known.versionStorage] <+: q)
    (he : e.Canonical) (hdocs : e.NamedDocuments) :
    Spares q m0 (imp.importSet f e.parent e.name e.artifacts) := by
  have hdoc : Spares q m0 _ := spares_acceptDocView imp.options.ignoredProperties hq
    (fun a ha => (he.parent.join he.name).join (he.artifacts a (ArtifactSet.mem_of_first? ha)))
    hdocs
  have hfolder : Spares q m0 _ :=
    spares_acceptFolder imp.options.folderType hac hq hstore he.parent
    fun d hd => he.artifacts d (ArtifactSet.mem_of_first? hd)
  unfold Importer.importSet
  refine hdoc.bind fun _ => ?_
  split
  · exact hfolder.bind fun _ => by split <;> exact spares_pure _
  · exact hfolder.bind fun _ => by split <;> exact spares_pure _

/-- A pass over entries that each spare the watched node ends, when it succeeds, in a state that
keeps it: a failing entry would end the pass with its failure. -/
theorem keptAt_of_runEntries (imp : Importer) (f : WorkspaceFilter) :
    ∀ (entries : List ImportEntry) (p : Progress) (info : ImportInfo) (r r' : Repository)
      (p' : Progress) (res : ImportInfo),
      (∀ e ∈ entries, Spares q m0 (imp.importSet f e.parent e.name e.artifacts)) →
      KeptAt q m0 r.root → imp.runEntries f entries p info r = .ok (p', .ok res) r' →
      KeptAt q m0 r'.root
  | [], p, info, r, r', p', res, _, hr, h => by
    rw [Importer.runEntries] at h
    obtain ⟨_, r₁, hsave, h⟩ := bind_eq_ok.mp h
    cases hsave
    cases h
    exact hr
  | e :: es, p, info, r, r', p', res, hentries, hr, h => by
    rw [Importer.runEntries] at h
    obtain ⟨outcome, r₁, hattempt, h⟩ := bind_eq_ok.mp h
    -- the entry's import, successful or not, kept the watched node
    have hr₁ : KeptAt q m0 r₁.root := by
      have hkept := (hentries e List.mem_cons_self).attempt r hr
      rw [hattempt] at hkept
      exact hkept
    split at h
    · exact keptAt_of_runEntries imp f es _ _ r₁ r' p' res
        (fun d hd => hentries d (List.mem_cons_of_mem e hd)) hr₁ h
    · obtain ⟨_, _, -, h⟩ := bind_eq_ok.mp h
      cases h

/-- A successful import pass leaves every node that the filter leaves out in the state it was
in: the node is still there, with its primary type, mixins and properties. This holds for a
node outside the version storage with no node above it in the filter's scope in replace mode,
in a repository whose names are valid, when access control content is ignored or merged and
the entries are canonical with validly named documents. -/
theorem run_keeps_unfiltered_node {imp : Importer} {f : WorkspaceFilter}
    {entries : List ImportEntry} {r r' : Repository} {p : Progress} {info : ImportInfo}
    {q : List String} {m : Node}
    (hnames : Everywhere ValidChildNames r.root)
    (hac : imp.options.acHandling = .ignore ∨ imp.options.acHandling = .merge)
    (hentries : ∀ e ∈ entries, e.Canonical ∧ e.NamedDocuments)
    (hm : r.root.descendAlong q = some m)
    (hstore : ¬ [Known.system, Known.versionStorage] <+: q) (hscope : OutOfScope f q)
    (h : imp.run f entries r = .ok (p, .ok info) r') :
    ∃ m', r'.root.descendAlong q = some m' ∧ m'.primaryType = m.primaryType ∧
      m'.mixins = m.mixins ∧ m'.properties = m.properties := by
  have hspares : ∀ e ∈ entries, Spares q m (imp.importSet f e.parent e.name e.artifacts) :=
    fun e he => spares_importSet imp hac hscope hstore (hentries e he).1 (hentries e he).2
  have hkept := keptAt_of_runEntries imp f entries _ _ r r' p info hspares
    (keptAt_of_everywhere hnames hm) h
  obtain ⟨m', hm', hsame⟩ := hkept.state
  exact ⟨m', hm', hsame⟩

/-- The page `keep`, titled `Home`. -/
def keepPage : Node :=
  ⟨"keep", "nt:unstructured", [], [⟨"title", .string, false, [.string "Home"]⟩], []⟩

/-- A root with a version storage and a folder `content` holding `keepPage`. -/
def keepTree : Node :=
  ⟨"", "rep:root", [], [],
    [⟨Known.system, "rep:system", [], [], [Node.empty Known.versionStorage "rep:versionStorage"]⟩,
      ⟨"content", "nt:folder", [], [], [keepPage]⟩]⟩

/-- Two folder entries: `content` is reconciled, then a folder `fresh` is created in it. -/
def folderEntries : List ImportEntry :=
  [{ parent := "/", name := "content", artifacts := ⟨[Artifact.directory "content"]⟩ },
    { parent := "/content", name := "fresh", artifacts := ⟨[Artifact.directory "fresh"]⟩ }]

theorem folder_import_keeps_page :
    ∃ p info r', (⟨ImportOptions.default⟩ : Importer).run (WorkspaceFilter.forRoot "/content/fresh")
        folderEntries (Repository.ofRoot keepTree 0 creationMoment) = .ok (p, .ok info) r' ∧
      ∃ m', r'.root.descendAlong ["content", "keep"] = some m' ∧
        m'.primaryType = keepPage.primaryType ∧ m'.mixins = keepPage.mixins ∧
        m'.properties = keepPage.properties := by
  obtain ⟨p, info, r', hrun⟩ : ∃ p info r', (⟨ImportOptions.default⟩ : Importer).run
      (WorkspaceFilter.forRoot "/content/fresh") folderEntries
      (Repository.ofRoot keepTree 0 creationMoment) = .ok (p, .ok info) r' :=
    ⟨_, _, _, rfl⟩
  -- an entry made of one validly named directory is canonical and has no document
  have hfolder : ∀ parent name, Path.Canonical parent → Path.ValidName name →
      ImportEntry.Canonical ⟨parent, name, ⟨[Artifact.directory name]⟩⟩ ∧
        ImportEntry.NamedDocuments ⟨parent, name, ⟨[Artifact.directory name]⟩⟩ := by
    intro parent name hp hn
    refine ⟨⟨hp, Or.inr hn, fun a ha => ?_⟩, fun a ha => ?_⟩
    · rw [List.mem_singleton.mp ha]
      exact Or.inr hn
    · cases ha
  have hentries : ∀ e ∈ folderEntries, e.Canonical ∧ e.NamedDocuments := by
    intro e he
    rcases List.mem_cons.mp he with rfl | he
    · exact hfolder "/" "content" ⟨[], by simp, rfl⟩ (by decide)
    · rw [List.mem_singleton.mp he]
      exact hfolder "/content" "fresh" ⟨["content"], by decide, by decide⟩ (by decide)
  have hscope : OutOfScope (WorkspaceFilter.forRoot "/content/fresh") ["content", "keep"] := by
    refine ⟨by decide, fun a ha => ?_⟩
    rw [← List.mem_inits a] at ha
    revert ha
    revert a
    decide
  exact ⟨p, info, r', hrun, run_keeps_unfiltered_node (by decide) (Or.inl rfl) hentries rfl
    (by decide) hscope hrun⟩

/-- A root with a version storage and a folder `content/folder` with access control: the mixin
`rep:AccessControllable` and the policies `a` and `b`. -/
def aclTree : Node :=
  ⟨"", "rep:root", [], [],
    [⟨Known.system, "rep:system", [], [], [Node.empty Known.versionStorage "rep:versionStorage"]⟩,
      ⟨"content", "nt:folder", [], [],
        [⟨"folder", "nt:folder", ["rep:AccessControllable"], [],
          [Node.empty "a" "rep:ACL", Node.empty "b" "rep:ACL"]⟩]⟩]⟩

/-- The folder entry for `content/folder`. -/
def aclEntries : List ImportEntry :=
  [{ parent := "/content", name := "folder", artifacts := ⟨[Artifact.directory "folder"]⟩ }]

/-- Without the condition on access control handling the pass does reach filtered-out nodes:
under `overwrite`, reconciling the folder against a filter that covers only the policy `a`
clears every policy of the folder, and the policy `b`, which the filter leaves out, is gone. -/
theorem overwrite_clears_unfiltered_policy :
    ∃ p info r', (⟨{ ImportOptions.default with acHandling := .overwrite }⟩ : Importer).run
        (WorkspaceFilter.forRoot "/content/folder/a") aclEntries
        (Repository.ofRoot aclTree 0 creationMoment) = .ok (p, .ok info) r' ∧
      (WorkspaceFilter.forRoot "/content/folder/a").contains
        (Path.render ["content", "folder", "b"]) = false ∧
      (aclTree.descendAlong ["content", "folder", "b"]).isSome ∧
      r'.root.descendAlong ["content", "folder", "b"] = none := by
  -- the pass is evaluated by the kernel alone: unifying its result in the elaborator is far
  -- more costly than running it
  have hpass : EStateM.Result.rec (motive := fun _ => Bool)
      (fun a r' => a.2.toBool && (r'.root.descendAlong ["content", "folder", "b"]).isNone)
      (fun _ _ => false)
      ((⟨{ ImportOptions.default with acHandling := .overwrite }⟩ : Importer).run
        (WorkspaceFilter.forRoot "/content/folder/a") aclEntries
        (Repository.ofRoot aclTree 0 creationMoment)) = true := by decide +kernel
  generalize Importer.run _ _ _ _ = res at hpass ⊢
  obtain ⟨⟨p, _ | info⟩, r'⟩ | ⟨e, r'⟩ := res
  · simp [Except.toBool] at hpass
  · simp only [Except.toBool, Bool.true_and, Option.isNone_iff_eq_none] at hpass
    exact ⟨p, info, r', rfl, by decide, by decide, hpass⟩
  · simp at hpass

end ContentSync
