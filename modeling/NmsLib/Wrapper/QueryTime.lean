import NmsLib.Wrapper.ProjVPTree

/-!
# The query-time state of `ProjectionVPTree`

`ModesExclusive t`: at most one candidate mode is set. It holds after the constructor and is
kept by every `SetQueryTimeParamsInternal` call, whether it returns or throws
(`setQueryTimeParams_exclusive`), so it holds in every reachable object
(`Reachable.exclusive`). A call that returns leaves the modes the map names, and `0` for the
other (`setQueryTimeParams_ok`), so repeating it changes neither (`setQueryTimeParams_repeat`).

A call that throws is not a no-op (`setQueryTimeParams_error`): the VP-tree has already taken
the map, and a mode whose value does not parse has already cleared the other mode; the modes
are unchanged only when the VP-tree's setter threw or the map names both.
-/

namespace Similarity.ProjectionVPTree

variable {σ Obj : Type} (E : Ext σ)

/-- At most one candidate mode is set. -/
def ModesExclusive (t : ProjectionVPTree σ Obj) : Prop := t.knn_amp_ = 0 ∨ t.db_scan_frac_ = 0

/-- The modes a successful call leaves: the ones the map names, `0` for the other. -/
def modesOf (p : AnyParams) : UInt64 × ℚ :=
  (((p.lookup "knnAmp").map E.ConvertSizeT.value).getD 0,
    ((p.lookup "dbScanFrac").map E.ConvertFloat.value).getD 0)

theorem modeResult_exclusive (p : AnyParams) {t : ProjectionVPTree σ Obj} (h : ModesExclusive t) :
    ModesExclusive (modeResult E p t).state := by
  unfold ModesExclusive at h ⊢
  unfold modeResult
  split <;> simp [h]

theorem modeResult_ok {p : AnyParams} {t t' : ProjectionVPTree σ Obj}
    (h : modeResult E p t = .ok () t') : (t'.knn_amp_, t'.db_scan_frac_) = modesOf E p := by
  unfold modeResult at h
  split at h <;> rename_i hd hk
  · cases h
  · obtain ⟨-, rfl⟩ := raiseIn_eq_ok h; simp [modesOf, hd, hk]
  · obtain ⟨-, rfl⟩ := raiseIn_eq_ok h; simp [modesOf, hd, hk]
  · cases h; simp [modesOf, hd, hk]

/-- Whether `modeResult` returns depends on the map only. -/
theorem modeResult_ok_of_ok {p : AnyParams} {t t' : ProjectionVPTree σ Obj}
    (h : modeResult E p t = .ok () t') (t₂ : ProjectionVPTree σ Obj) :
    ∃ t₂', modeResult E p t₂ = .ok () t₂' := by
  rcases hd : p.lookup "dbScanFrac" with _ | s <;> rcases hk : p.lookup "knnAmp" with _ | s' <;>
    simp only [modeResult, hd, hk] at h ⊢
  · exact ⟨_, rfl⟩
  · exact ⟨_, by rw [(raiseIn_eq_ok h).1]; rfl⟩
  · exact ⟨_, by rw [(raiseIn_eq_ok h).1]; rfl⟩
  · cases h

/-- The closed form with the VP-tree's step named. -/
theorem setQueryTimeParams_cases (p : AnyParams) (t : ProjectionVPTree σ Obj) :
    (∃ e, onIndex (E.VPTreeSetQueryTimeParams (p.ExtractParametersExcept [])) t =
        .error e (SetQueryTimeParamsInternal E p t).state ∧
      SetQueryTimeParamsInternal E p t = .error e (SetQueryTimeParamsInternal E p t).state) ∨
    ∃ t₁, onIndex (E.VPTreeSetQueryTimeParams (p.ExtractParametersExcept [])) t = .ok () t₁ ∧
      SetQueryTimeParamsInternal E p t = modeResult E p t₁ := by
  rw [SetQueryTimeParamsInternal_eq]
  rcases onIndex (E.VPTreeSetQueryTimeParams (p.ExtractParametersExcept [])) t with ⟨⟨⟩, t₁⟩ | ⟨e, t₁⟩
  · exact .inr ⟨t₁, rfl, rfl⟩
  · exact .inl ⟨e, rfl, rfl⟩

theorem setQueryTimeParams_exclusive (p : AnyParams) {t : ProjectionVPTree σ Obj}
    (h : ModesExclusive t) : ModesExclusive (SetQueryTimeParamsInternal E p t).state := by
  obtain ⟨-, hk, hd⟩ := onIndex_state (E.VPTreeSetQueryTimeParams (p.ExtractParametersExcept [])) t
  have h₁ : ModesExclusive (onIndex (E.VPTreeSetQueryTimeParams (p.ExtractParametersExcept [])) t).state := by
    unfold ModesExclusive; rw [hk, hd]; exact h
  rcases setQueryTimeParams_cases E p t with ⟨e, he, -⟩ | ⟨t₁, ht, heq⟩
  · rwa [he] at h₁
  · rw [heq]; rw [ht] at h₁; exact modeResult_exclusive E p h₁

theorem setQueryTimeParams_ok {p : AnyParams} {t t' : ProjectionVPTree σ Obj}
    (h : SetQueryTimeParamsInternal E p t = .ok () t') : (t'.knn_amp_, t'.db_scan_frac_) = modesOf E p := by
  rcases setQueryTimeParams_cases E p t with ⟨e, -, he⟩ | ⟨t₁, -, heq⟩
  · rw [h] at he; cases he
  · exact modeResult_ok E (heq ▸ h)

theorem setQueryTimeParams_repeat {p : AnyParams} {t t' : ProjectionVPTree σ Obj}
    (h : SetQueryTimeParamsInternal E p t = .ok () t') :
    ((SetQueryTimeParamsInternal E p t').state.knn_amp_,
      (SetQueryTimeParamsInternal E p t').state.db_scan_frac_) = (t'.knn_amp_, t'.db_scan_frac_) := by
  obtain ⟨t₁, -, heq⟩ := (setQueryTimeParams_cases E p t).resolve_left fun ⟨_, _, he⟩ => by
    rw [h] at he; cases he
  rcases setQueryTimeParams_cases E p t' with ⟨e, he, -⟩ | ⟨t₂, -, heq₂⟩
  · obtain ⟨-, hk, hd⟩ := onIndex_state (E.VPTreeSetQueryTimeParams (p.ExtractParametersExcept [])) t'
    rw [he, EStateM.Result.state_error] at hk hd
    rw [hk, hd]
  · obtain ⟨t₂', h₂⟩ := modeResult_ok_of_ok E (heq ▸ h) t₂
    rw [heq₂, h₂, EStateM.Result.state_ok, modeResult_ok E h₂, ← setQueryTimeParams_ok E h]

theorem new_exclusive {data : List Obj} {hdata : data.length < UInt64.size} {AllParams : AnyParams}
    {t : ProjectionVPTree σ Obj} (h : new E data hdata AllParams = .ok t) : ModesExclusive t := by
  obtain ⟨t₀, v, hs, -, rfl⟩ := new_inv E h
  have h₀ := setQueryTimeParams_exclusive E AllParams
    (show ModesExclusive (⟨data, hdata, 0, 0, none⟩ : ProjectionVPTree σ Obj) from .inl rfl)
  rwa [hs] at h₀

theorem Reachable.exclusive {t : ProjectionVPTree σ Obj} (h : Reachable E t) : ModesExclusive t := by
  induction h with
  | new hn => exact new_exclusive E hn
  | set p _ ih => exact setQueryTimeParams_exclusive E p ih

theorem queryTime_modes_exclusive (t : ProjectionVPTree σ Obj) (ht : Reachable E t) :
    (t.knn_amp_ = 0 ∨ t.db_scan_frac_ = 0) ∧
      ∀ (p : AnyParams) (t' : ProjectionVPTree σ Obj),
        SetQueryTimeParamsInternal E p t = .ok () t' →
          (t'.knn_amp_ = ((p.lookup "knnAmp").map E.ConvertSizeT.value).getD 0 ∧
            t'.db_scan_frac_ = ((p.lookup "dbScanFrac").map E.ConvertFloat.value).getD 0) ∧
          ((SetQueryTimeParamsInternal E p t').state.knn_amp_ = t'.knn_amp_ ∧
            (SetQueryTimeParamsInternal E p t').state.db_scan_frac_ = t'.db_scan_frac_) :=
  ⟨ht.exclusive E, fun _ _ h => ⟨Prod.ext_iff.1 (setQueryTimeParams_ok E h),
    Prod.ext_iff.1 (setQueryTimeParams_repeat E h)⟩⟩

theorem queryTime_modes_exclusive_knnAmp :
    Reachable Ext.polynomial
        (⟨[()], by decide, 5, 0, some .initial⟩ : ProjectionVPTree (PolynomialPruner ℚ) Unit) ∧
      ((5 : UInt64) = 0 ∨ (0 : ℚ) = 0) :=
  have h : Reachable Ext.polynomial
      (⟨[()], by decide, 5, 0, some .initial⟩ : ProjectionVPTree (PolynomialPruner ℚ) Unit) :=
    @Reachable.new _ _ _ [()] (by decide)
      ⟨[("knnAmp", "5"), ("projDim", "16"), ("projType", "rand")], by decide⟩ _ rfl
  ⟨h, (queryTime_modes_exclusive Ext.polynomial _ h).1⟩

/-! ## A call that throws -/

/-- The VP-tree's setter, which runs first, threw. -/
def IndexThrew (p : AnyParams) (t : ProjectionVPTree σ Obj) : Prop :=
  ∃ e v, onIndex (E.VPTreeSetQueryTimeParams (p.ExtractParametersExcept [])) t = .error e v

/-- How a call that threw `e` leaves the modes of `t`, case by case: as they were when the
VP-tree's setter threw (`threw`) or the map names both modes; when the setter returned and the
value of the one mode named does not parse, with the other mode cleared and the named one
holding what the failed read left in it. -/
def ErrorModes (p : AnyParams) (e : String) (threw : Prop) (t t' : ProjectionVPTree σ Obj) :
    Prop :=
  (threw ∨ (p.hasParam "dbScanFrac" ∧ p.hasParam "knnAmp") →
    t'.knn_amp_ = t.knn_amp_ ∧ t'.db_scan_frac_ = t.db_scan_frac_) ∧
  (¬threw → ∀ s, p.lookup "dbScanFrac" = some s → p.lookup "knnAmp" = none →
    E.ConvertFloat.error s = some e ∧ t'.knn_amp_ = 0 ∧ t'.db_scan_frac_ = E.ConvertFloat.value s) ∧
  (¬threw → ∀ s, p.lookup "knnAmp" = some s → p.lookup "dbScanFrac" = none →
    E.ConvertSizeT.error s = some e ∧ t'.db_scan_frac_ = 0 ∧ t'.knn_amp_ = E.ConvertSizeT.value s)

theorem modeResult_error {p : AnyParams} {t t' : ProjectionVPTree σ Obj} {e : String}
    (h : modeResult E p t = .error e t') :
    t'.data_ = t.data_ ∧ t'.VPTreeIndex_ = t.VPTreeIndex_ ∧ ErrorModes E p e False t t' := by
  unfold modeResult at h
  split at h <;> rename_i hd hk
  · cases h
    exact ⟨rfl, rfl, fun _ => ⟨rfl, rfl⟩, fun _ _ _ h' => by simp [h'] at hk,
      fun _ _ _ h' => by simp [h'] at hd⟩
  · obtain ⟨he, rfl⟩ := raiseIn_eq_error h
    refine ⟨rfl, rfl, fun h' => ?_, fun _ s hs _ => ?_, fun _ _ hs _ => by simp [hs] at hk⟩
    · simp [AnyParams.hasParam, hk] at h'
    · cases hd.symm.trans hs; exact ⟨he, rfl, rfl⟩
  · obtain ⟨he, rfl⟩ := raiseIn_eq_error h
    refine ⟨rfl, rfl, fun h' => ?_, fun _ _ hs _ => by simp [hs] at hd, fun _ s hs _ => ?_⟩
    · simp [AnyParams.hasParam, hd] at h'
    · cases hk.symm.trans hs; exact ⟨he, rfl, rfl⟩
  · cases h

theorem setQueryTimeParams_error {p : AnyParams} {t t' : ProjectionVPTree σ Obj} {e : String}
    (h : SetQueryTimeParamsInternal E p t = .error e t') :
    t'.data_ = t.data_ ∧
      t'.VPTreeIndex_ =
        (onIndex (E.VPTreeSetQueryTimeParams (p.ExtractParametersExcept [])) t).state.VPTreeIndex_ ∧
      ErrorModes E p e (IndexThrew E p t) t t' := by
  obtain ⟨hdata, hk, hd⟩ := onIndex_state (E.VPTreeSetQueryTimeParams (p.ExtractParametersExcept [])) t
  rcases setQueryTimeParams_cases E p t with ⟨e', he, hs⟩ | ⟨t₁, ht, heq⟩
  · rw [h] at hs he
    rw [he, EStateM.Result.state_error] at hdata hk hd
    exact ⟨hdata, by rw [he]; rfl, fun _ => ⟨hk, hd⟩, fun hn => absurd ⟨e', t', he⟩ hn,
      fun hn => absurd ⟨e', t', he⟩ hn⟩
  · rw [ht, EStateM.Result.state_ok] at hdata hk hd
    have hn : ¬IndexThrew E p t := fun ⟨_, _, h'⟩ => by rw [ht] at h'; cases h'
    obtain ⟨h₁, h₂, h₃, h₄, h₅⟩ := modeResult_error E (heq ▸ h)
    refine ⟨h₁.trans hdata, by rw [ht]; exact h₂, fun h' => ?_, fun _ => h₄ not_false,
      fun _ => h₅ not_false⟩
    rw [← hk, ← hd]
    exact h₃ (h'.resolve_left hn |> .inr)

/-- From the object built with `knnAmp=5`, the call with `dbScanFrac=abc` throws after clearing
`knn_amp_`. -/
theorem setQueryTimeParams_error_changes_knnAmp :
    Reachable Ext.polynomial
        (⟨[()], by decide, 5, 0, some .initial⟩ : ProjectionVPTree (PolynomialPruner ℚ) Unit) ∧
      SetQueryTimeParamsInternal Ext.polynomial ⟨[("dbScanFrac", "abc")], by decide⟩
          (⟨[()], by decide, 5, 0, some .initial⟩ : ProjectionVPTree (PolynomialPruner ℚ) Unit) =
        .error "abc" ⟨[()], by decide, 0, 0, some .initial⟩ :=
  ⟨@Reachable.new _ _ _ [()] (by decide)
    ⟨[("knnAmp", "5"), ("projDim", "16"), ("projType", "rand")], by decide⟩ _ rfl, rfl⟩

theorem setQueryTimeParams_error_at_abc :
    SetQueryTimeParamsInternal Ext.polynomial ⟨[("dbScanFrac", "abc")], by decide⟩
        (⟨[()], by decide, 5, 0, some .initial⟩ : ProjectionVPTree (PolynomialPruner ℚ) Unit) =
      .error "abc" ⟨[()], by decide, 0, 0, some .initial⟩ ∧
    ErrorModes Ext.polynomial ⟨[("dbScanFrac", "abc")], by decide⟩ "abc"
      (IndexThrew Ext.polynomial ⟨[("dbScanFrac", "abc")], by decide⟩
        (⟨[()], by decide, 5, 0, some .initial⟩ : ProjectionVPTree (PolynomialPruner ℚ) Unit))
      (⟨[()], by decide, 5, 0, some .initial⟩ : ProjectionVPTree (PolynomialPruner ℚ) Unit)
      ⟨[()], by decide, 0, 0, some .initial⟩ :=
  have h : SetQueryTimeParamsInternal Ext.polynomial ⟨[("dbScanFrac", "abc")], by decide⟩
      (⟨[()], by decide, 5, 0, some .initial⟩ : ProjectionVPTree (PolynomialPruner ℚ) Unit) =
    .error "abc" ⟨[()], by decide, 0, 0, some .initial⟩ := rfl
  ⟨h, (setQueryTimeParams_error Ext.polynomial h).2.2⟩

end Similarity.ProjectionVPTree
