import VarFile.Text.Cells

/-!
# Clusters

A text is broken only between clusters. A cluster is a code point that takes cells, with all after
it that takes none or is joined to it; what takes none at the start of a text is a cluster of its
own. `clusters_flatten` says that the clusters of a text are that text in pieces.
-/

namespace VarFile.Text

/-- Code points that stay together, and the cells they take. -/
structure Cluster where
  text : Text
  cells : Nat

/-- The clusters of what was read, the last one first and each of them back to front. -/
structure Clustering where
  pieces : List Cluster := []
  /-- The last code point that took a cell, if no U+FE0F came after it. -/
  base : Option CodePoint := none
  /-- Whether the next code point is joined to what is before it. -/
  joined : Bool := false

namespace Clustering

/-- The clusters with a code point added to the last one, which takes some more cells then. -/
def attach (pieces : List Cluster) (c : CodePoint) (gain : Nat) : List Cluster :=
  match pieces with
  | [] => [⟨[c], gain⟩]
  | last :: rest => ⟨c :: last.text, last.cells + gain⟩ :: rest

/-- Reads the next code point. -/
def step (s : Clustering) (c : CodePoint) : Clustering :=
  if s.joined then { s with pieces := attach s.pieces c 0, joined := false }
  else if c = CodePoint.joiner then
    { s with pieces := attach s.pieces c 0, joined := !s.pieces.isEmpty }
  else if c = CodePoint.pictureSelector then
    { s with pieces := attach s.pieces c (Measure.gain s.base), base := none }
  else if c.cells = 0 then { s with pieces := attach s.pieces c 0 }
  else { s with pieces := ⟨[c], c.cells⟩ :: s.pieces, base := some c }

end Clustering

/-- The clusters of a text. -/
def clusters (t : Text) : List Cluster :=
  (t.foldl Clustering.step {}).pieces.reverse.map fun k => ⟨k.text.reverse, k.cells⟩

/-- What of some clusters fits into a width, with a blank for half of one. -/
def cutClusters (width : Nat) : List Cluster → Text
  | [] => []
  | k :: rest =>
    if k.cells ≤ width then k.text ++ cutClusters (width - k.cells) rest else spaces width

/-- A text cut to a width. -/
def cut (width : Nat) (t : Text) : Text :=
  if t.cells ≤ width then t else cutClusters width t.clusters

/-- The pieces of a word that fit into a width. -/
def chop (width : Nat) (word : Text) : List Text :=
  let (done, current, _) := word.clusters.foldl
    (fun ((done, current, used) : List Text × Text × Nat) k =>
      if width < used + k.cells then (current :: done, k.text, k.cells)
      else (done, current ++ k.text, used + k.cells))
    ([], [], 0)
  (current :: done).reverse

private theorem flatMap_attach (pieces : List Cluster) (c : CodePoint) (gain : Nat) :
    (Clustering.attach pieces c gain).flatMap Cluster.text
      = c :: pieces.flatMap Cluster.text := by
  cases pieces <;> simp [Clustering.attach]

/-- Reading a code point adds it and nothing else. -/
theorem flatMap_step (s : Clustering) (c : CodePoint) :
    (s.step c).pieces.flatMap Cluster.text = c :: s.pieces.flatMap Cluster.text := by
  unfold Clustering.step
  repeat' split
  all_goals simp [flatMap_attach]

/-- Reading a text adds its code points. -/
theorem flatMap_foldl_step (t : Text) (s : Clustering) :
    (t.foldl Clustering.step s).pieces.flatMap Cluster.text
      = t.reverse ++ s.pieces.flatMap Cluster.text := by
  induction t generalizing s with
  | nil => simp
  | cons c t ih => simp [ih, flatMap_step]

/-- The clusters of a text make up the text. -/
theorem clusters_flatten (t : Text) : t.clusters.flatMap Cluster.text = t := by
  have h := congrArg List.reverse (flatMap_foldl_step t {})
  simp only [List.flatMap_nil, List.append_nil, List.reverse_reverse] at h
  rw [List.reverse_flatMap] at h
  rw [clusters, List.flatMap_map]
  exact h

end VarFile.Text
