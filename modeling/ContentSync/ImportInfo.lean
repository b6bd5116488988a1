/-!
# Import results

An import reports, for every path it touched, what happened there: the node was created,
modified, replaced or deleted. The report is a map from paths to modifications kept in
ascending order of the paths, so it lists each path once and reads the same whatever the
order of the calls that built it. A report carries the proof of its order
(`ImportInfo.ascending`), which each way of recording an entry keeps (`pairwise_putEntry`,
`pairwise_addEntry`).

A modification only downgrades to `modified` when nothing stronger is recorded: marking a
path modified keeps a creation, a replacement or a deletion already recorded there.

Main definitions: `Modification`, `ImportInfo`, `ImportInfo.record`, `ImportInfo.merge`.
-/

namespace ContentSync

/-- What an import did to one path. -/
inductive Modification where
  | created
  | modified
  | replaced
  | deleted
deriving DecidableEq, Repr, Inhabited

/-- The name of a modification. -/
def Modification.title : Modification → String
  | .created => "Created"
  | .modified => "Modified"
  | .replaced => "Replaced"
  | .deleted => "Deleted"

/-- The progress code of a modification: added, updated, replaced or deleted. -/
def Modification.action : Modification → String
  | .created => "A"
  | .modified => "U"
  | .replaced => "R"
  | .deleted => "D"

/-- Puts `m` at `path` in an ascending list, replacing what was there. -/
def putEntry (path : String) (m : Modification) :
    List (String × Modification) → List (String × Modification)
  | [] => [(path, m)]
  | (p, old) :: rest =>
    if path < p then (path, m) :: (p, old) :: rest
    else if path = p then (path, m) :: rest
    else (p, old) :: putEntry path m rest

/-- Puts `m` at `path` in an ascending list unless the path is there already. -/
def addEntry (path : String) (m : Modification) :
    List (String × Modification) → List (String × Modification)
  | [] => [(path, m)]
  | (p, old) :: rest =>
    if path < p then (path, m) :: (p, old) :: rest
    else if path = p then (p, old) :: rest
    else (p, old) :: addEntry path m rest

theorem mem_putEntry {path : String} {m : Modification} {x : String × Modification} :
    ∀ {es : List (String × Modification)}, x ∈ putEntry path m es → x = (path, m) ∨ x ∈ es
  | [], h => by simpa [putEntry] using h
  | (p, old) :: rest, h => by
    rw [putEntry] at h
    split at h
    · simpa using h
    · split at h
      · rcases List.mem_cons.mp h with rfl | h
        · exact .inl rfl
        · exact .inr (List.mem_cons_of_mem _ h)
      · rcases List.mem_cons.mp h with rfl | h
        · exact .inr List.mem_cons_self
        · exact (mem_putEntry h).imp_right (List.mem_cons_of_mem _)

/-- Both ways of recording an entry leave the same paths. -/
theorem keys_addEntry (path : String) (m : Modification) :
    ∀ es : List (String × Modification),
      (addEntry path m es).map (·.1) = (putEntry path m es).map (·.1)
  | [] => rfl
  | (p, old) :: rest => by
    rw [addEntry, putEntry]
    split
    · rfl
    · split
      · rename_i h
        simp [h]
      · simp [keys_addEntry path m rest]

theorem pairwise_putEntry (path : String) (m : Modification) :
    ∀ {es : List (String × Modification)}, es.Pairwise (fun x y => x.1 < y.1) →
      (putEntry path m es).Pairwise (fun x y => x.1 < y.1)
  | [], _ => by simp [putEntry]
  | (p, old) :: rest, h => by
    obtain ⟨hp, hrest⟩ := List.pairwise_cons.mp h
    rw [putEntry]
    split
    · next hlt =>
      refine List.Pairwise.cons (fun y hy => ?_) h
      rcases List.mem_cons.mp hy with rfl | hy
      · exact hlt
      · exact String.lt_trans hlt (hp y hy)
    · split
      · next heq =>
        subst heq
        exact List.Pairwise.cons hp hrest
      · next hlt hne =>
        -- the new path goes after `p`, somewhere in the rest
        have hgt : p < path := Std.lt_of_le_of_ne hlt (Ne.symm hne)
        refine List.Pairwise.cons (fun y hy => ?_) (pairwise_putEntry path m hrest)
        rcases mem_putEntry hy with rfl | hy
        · exact hgt
        · exact hp y hy

theorem pairwise_addEntry (path : String) (m : Modification)
    {es : List (String × Modification)} (h : es.Pairwise (fun x y => x.1 < y.1)) :
    (addEntry path m es).Pairwise (fun x y => x.1 < y.1) := by
  rw [← List.pairwise_map (R := (· < ·)), keys_addEntry, List.pairwise_map]
  exact pairwise_putEntry path m h

/-- The report of an import: modifications by path, in strictly ascending path order, so each
path once: the order of a map keyed by path. -/
structure ImportInfo where
  entries : List (String × Modification)
  ascending : entries.Pairwise fun x y => x.1 < y.1
deriving DecidableEq, Repr

namespace ImportInfo

/-- The empty report. -/
def empty : ImportInfo := { entries := [], ascending := .nil }

instance : Inhabited ImportInfo := ⟨empty⟩

/-- The modification recorded at a path. -/
def get? (info : ImportInfo) (path : String) : Option Modification :=
  (info.entries.find? (·.1 = path)).map (·.2)

/-- Records a modification: `modified` only where nothing is recorded, any other one
replacing what was there. -/
def record (info : ImportInfo) (path : String) (m : Modification) : ImportInfo :=
  match m with
  | .modified =>
    { entries := addEntry path m info.entries
      ascending := pairwise_addEntry path m info.ascending }
  | _ =>
    { entries := putEntry path m info.entries
      ascending := pairwise_putEntry path m info.ascending }

/-- Records that a node was created. -/
def onCreated (info : ImportInfo) (path : String) : ImportInfo := info.record path .created

/-- Records that a node was modified, unless something else is recorded there. -/
def onModified (info : ImportInfo) (path : String) : ImportInfo := info.record path .modified

/-- Records that a node was replaced. -/
def onReplaced (info : ImportInfo) (path : String) : ImportInfo := info.record path .replaced

/-- Records that a node was deleted. -/
def onDeleted (info : ImportInfo) (path : String) : ImportInfo := info.record path .deleted

/-- Records every entry of `other` in ascending order. -/
def merge (info other : ImportInfo) : ImportInfo :=
  other.entries.foldl (fun acc (p, m) => acc.record p m) info

/-- The number of paths recorded. -/
def size (info : ImportInfo) : Nat := info.entries.length

/-- Whether nothing is recorded. -/
def isEmpty (info : ImportInfo) : Bool := info.entries.isEmpty

end ImportInfo

end ContentSync
