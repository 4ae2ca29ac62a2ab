import ClientGen.Proofs.Resolution.Names

/-!
# What the file of a class exports again

The file of a class exports again the declarations of other files that the signatures of
the class name. Whatever else it takes it needs for types alone. Each file and name that it
takes is of one of the two kinds, so the statements for types alone and those that export
again take together what all of its statements take, whatever classes came before.
-/

namespace ClientGen

/-! ### Providers without others -/

namespace Providers

variable {providers others : Providers}

/-- No name of a provider is left when the names of others are taken away that give it. -/
theorem Ordered.nodup_pairs_without (h : providers.Ordered) (hothers : others.Ordered) :
  ((providers.without others).pairs ++ others.pairs).Nodup
  := by
  apply List.nodup_append'.mpr
  and_intros
  · apply (h.without others).nodup_pairs
  · apply hothers.nodup_pairs
  · rintro ⟨provider, name⟩ hleft hother
    apply not_gives_of_gives_without hothers ((mem_pairs _ _ _).mp hleft)
    apply (mem_pairs _ _ _).mp hother

/-- If others give no more than the providers, then the providers give what the others give
and what is left without it. -/
theorem mem_pairs_without_append
    (hsubset : ∀ provider name, others.Gives provider name → providers.Gives provider name)
    (provider name : String) :
  (provider, name) ∈ (providers.without others).pairs ++ others.pairs
    ↔ providers.Gives provider name
  := by
  rw [List.mem_append, mem_pairs, mem_pairs]
  constructor
  · rintro (hleft | hother)
    · apply gives_of_gives_without hleft
    · apply hsubset provider name hother
  · intro hgives
    apply gives_without_or_gives hgives

/-- What providers give is what others give, if the providers give it too, together with
what is left without it. -/
theorem Ordered.perm_pairs_without (h : providers.Ordered) (hothers : others.Ordered)
    (hsubset : ∀ provider name, others.Gives provider name → providers.Gives provider name) :
  providers.pairs.Perm ((providers.without others).pairs ++ others.pairs)
  := by
  apply (List.perm_ext_iff_of_nodup h.nodup_pairs (h.nodup_pairs_without hothers)).mpr
  rintro ⟨provider, name⟩
  rw [mem_pairs, mem_pairs_without_append hsubset]

end Providers

namespace ClassRequest

variable {r : ClassRequest}

/-! ### Exported declarations -/

theorem ordered_exported (r : ClassRequest) :
  r.exported.Ordered
  := Providers.ordered_nil.addAll r.signatureEdges

/-- The file of a class exports a name again from the file to which the declaration of the
name belongs, if that is another file and the signatures of the class refer to the name. -/
theorem gives_exported_iff (provider name : String) :
  r.exported.Gives provider name
    ↔ provider ≠ r.path ∧ ∃ m ∈ r.methods, ∃ t ∈ m.signatureTypes, name ∈ t.referencedNames
      ∧ ∃ d, r.program.declaration? name = some d ∧ r.homeOf d = provider
  := by
  rw [gives_exported, mem_signatureEdges]
  constructor
  · rintro ⟨m, hm, t, ht, _, hname, d, hd, hne, heq⟩
    obtain ⟨-, rfl, rfl⟩ := Edge.mk.inj heq
    obtain rfl := Program.name_of_declaration? hd
    exact ⟨hne, m, hm, t, ht, hname, d, hd, rfl⟩
  · rintro ⟨hne, m, hm, t, ht, hname, d, hd, rfl⟩
    use m, hm, t, ht, name, hname, d, hd, hne
    rw [Program.name_of_declaration? hd]

/-- After any classes and one more, the file of this class takes pairs of a file and a name,
each once. It exports those again whose name stands in a signature of the class and is that
of a declaration which belongs to the file, another one than that of the class, and takes
the others for types alone. For both kinds a statement tells how the file names the other
file and how the files spell the name, and so do all statements, which take together what
those of the two kinds take. -/
theorem perm_takenBy_importsFrom (lang : Language) (requests : List ClassRequest)
    (r : ClassRequest) :
  let g := ImportGraph.ofRequests lang (requests ++ [r])
  let file := r.importsFrom lang g
  ∃ others exported : List (String × String),
    (others ++ exported).Nodup
      ∧ (∀ provider name, (provider, name) ∈ others ++ exported
        ↔ (g.providersOf r.path).Gives provider name)
      ∧ (∀ provider name, (provider, name) ∈ exported
        ↔ provider ≠ r.path ∧ ∃ m ∈ r.methods, ∃ t ∈ m.signatureTypes,
          name ∈ t.referencedNames
            ∧ ∃ d, r.program.declaration? name = some d ∧ r.homeOf d = provider)
      ∧ (takenBy file.annotationImports).Perm (others.map (g.taken lang r.path))
      ∧ (takenBy file.reexports).Perm (exported.map (g.taken lang r.path))
      ∧ (takenBy file.imports).Perm
        (takenBy file.annotationImports ++ takenBy file.reexports)
  := by
  intro g file
  have hordered := ImportGraph.ordered_providersOf_ofRequests lang (requests ++ [r]) r.path
  have hsubset : ∀ provider name, r.exported.Gives provider name →
      (g.providersOf r.path).Gives provider name := by
    intro provider name
    apply gives_ofRequests_of_gives_exported
    simp
  have hothers : (takenBy file.annotationImports).Perm
      (((g.providersOf r.path).without r.exported).pairs.map (g.taken lang r.path)) :=
    g.perm_takenBy_statements lang r.path _
  have hexported : (takenBy file.reexports).Perm
      (r.exported.pairs.map (g.taken lang r.path)) :=
    g.perm_takenBy_statements lang r.path _
  use ((g.providersOf r.path).without r.exported).pairs, r.exported.pairs
  and_intros
  · apply hordered.nodup_pairs_without r.ordered_exported
  · apply Providers.mem_pairs_without_append hsubset
  · intro provider name
    rw [Providers.mem_pairs, gives_exported_iff]
  · apply hothers
  · apply hexported
  · have hpairs := (hordered.perm_pairs_without r.ordered_exported hsubset).map
      (g.taken lang r.path)
    rw [List.map_append] at hpairs
    apply (g.perm_takenBy_statements lang r.path _).trans
    apply hpairs.trans
    apply (hothers.append hexported).symm

end ClassRequest

end ClientGen
