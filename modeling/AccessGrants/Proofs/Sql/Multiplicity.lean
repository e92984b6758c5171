import AccessGrants.Proofs.Sql.Meaning

/-!
How often a query finds what it finds, and in which order. A join that puts no
more than one row beside each frame leaves apart what was apart before. If no two
entries of a query have the same key, its rows come in the strict order of the
keys, and so each of them once.
-/

namespace AccessGrants.Sql

variable {tables : Tables} {parameters : List Value} {frames : List Frame}

theorem Join.nodup_extend {κ : Type} {mark : Frame → κ} {join : Join}
    (kept : ∀ frame record, mark (frame ++ [(join.source.name, record)]) = mark frame)
    (once : ∀ frame ∈ frames, (tables join.source.table).Pairwise fun record other =>
      ¬(join.condition.Holds parameters (frame ++ [(join.source.name, record)]) ∧
        join.condition.Holds parameters (frame ++ [(join.source.name, other)])))
    (h : (frames.map mark).Nodup) :
    ((join.extend tables parameters frames).map mark).Nodup := by
  rw [List.Nodup, List.pairwise_map] at h ⊢
  rw [Join.extend, List.pairwise_flatMap]
  constructor
  · intro frame hframe
    rw [List.pairwise_filter, List.pairwise_map]
    refine (once frame hframe).imp ?_
    intro record other hnever hrecord hother
    exact absurd ⟨of_decide_eq_true hrecord, of_decide_eq_true hother⟩ hnever
  · -- What stands beside a frame does not change its mark.
    refine h.imp ?_
    intro first second hne a ha b hb
    obtain ⟨record, _, rfl⟩ := List.mem_map.mp (List.mem_of_mem_filter ha)
    obtain ⟨other, _, rfl⟩ := List.mem_map.mp (List.mem_of_mem_filter hb)
    rw [kept, kept]
    exact hne

namespace Select

variable {query : Select} {rows : List Row}

theorem nodup_keys_of_found (all : query.distinct = false)
    (h : ((query.found tables parameters).map (query.key parameters)).Nodup) :
    ((query.entries tables parameters).map Prod.fst).Nodup := by
  rw [entries, all, if_neg Bool.false_ne_true, List.map_map]
  exact h

/-- Without repetitions no key comes twice if it belongs to one row. -/
theorem nodup_keys_of_distinct (distinct : query.distinct = true)
    (h : ∀ frame ∈ query.found tables parameters, ∀ other ∈ query.found tables parameters,
      query.key parameters frame = query.key parameters other →
        query.row parameters frame = query.row parameters other) :
    ((query.entries tables parameters).map Prod.fst).Nodup := by
  rw [entries, distinct, if_pos rfl]
  refine List.Nodup.map_on ?_ (List.nodup_dedup _)
  intro first hfirst second hsecond hsame
  obtain ⟨frame, hframe, rfl⟩ := List.mem_map.mp (List.mem_dedup.mp hfirst)
  obtain ⟨other, hother, rfl⟩ := List.mem_map.mp (List.mem_dedup.mp hsecond)
  exact Prod.ext hsame (h frame hframe other hother hsame)

/-- Rows from which the key can be read come in the strict order of their keys. -/
theorem Yields.pairwise_keys (h : query.Yields tables parameters rows) (key : Row → Value)
    (hkey : ∀ frame, key (query.row parameters frame) = query.key parameters frame)
    (nodup : ((query.entries tables parameters).map Prod.fst).Nodup) :
    (rows.map key).Pairwise fun first second => first.atMost second = true ∧ first ≠ second := by
  obtain ⟨listing, hperm, hsorted, rfl⟩ := h
  have hread : ∀ entry ∈ listing, key entry.2 = entry.1 := by
    intro entry hentry
    have hfound : entry ∈ (query.found tables parameters).map fun frame =>
        (query.key parameters frame, query.row parameters frame) := by
      have hmem := hperm.mem_iff.mp hentry
      unfold entries at hmem
      split at hmem
      · exact List.mem_dedup.mp hmem
      · exact hmem
    obtain ⟨frame, _, rfl⟩ := List.mem_map.mp hfound
    exact hkey frame
  have hkeys : (listing.map Prod.snd).map key = listing.map Prod.fst := by
    rw [List.map_map]
    exact List.map_congr_left hread
  have hnodup : (listing.map Prod.fst).Nodup := (hperm.map Prod.fst).nodup_iff.mpr nodup
  rw [hkeys]
  exact (List.pairwise_map.mpr hsorted).and hnodup

end Select

end AccessGrants.Sql
