import PageLayers.Page.Checksum
import PageLayers.Proofs.Artifact.Compiled
import PageLayers.Proofs.Digest.Hexadecimal
import PageLayers.Proofs.Json.Injective
import PageLayers.Proofs.Page.Records
import PageLayers.Proofs.Page.Values

/-! What is hashed tells which page it is of: no two pages have one canonical text, and no two
fingerprints are taken of one text. -/

namespace PageLayers

open Json Function

/-! ### No two pages have one JSON form -/

theorem optionalJson?_injective : Injective optionalJson? :=
  Option.map_injective fun _ _ => str.inj

theorem arr_map_inj {α : Type} {encode : α → Json} (h : Injective encode) {l m : List α} :
    arr (l.map encode) = arr (m.map encode) ↔ l = m := by
  rw [arr.injEq]
  exact (List.map_injective_iff.2 h).eq_iff

theorem textMap?_injective : Injective textMap? := by
  intro m n h
  unfold textMap? at h
  split_ifs at h with hm hn hn
  · exact OrderedMap.ext_entries ((List.isEmpty_iff.1 hm).trans (List.isEmpty_iff.1 hn).symm)
  · exact ofMap_inj (fun _ _ => str.inj) (Option.some.inj h)

theorem timeout_injective : Injective (Option.map ofNat) :=
  Option.map_injective fun a b h => by simpa [ofNat] using h

theorem AccessRule.toJson_injective : Injective toJson := by
  rintro ⟨allow, deny, requires⟩ ⟨allow', deny', requires'⟩ h
  have hfields := present_inj (by simp) (by rfl) h
  simp only [List.cons.injEq, Prod.mk.injEq, true_and, and_true,
    (Option.map_injective ofSet_injective).eq_iff] at hfields
  obtain ⟨rfl, rfl, hrequires⟩ := hfields
  have hrequires : requires = requires' := by
    split_ifs at hrequires with he he' he'
    · exact OrderedSet.ext_members ((List.isEmpty_iff.1 he).trans (List.isEmpty_iff.1 he').symm)
    · exact ofSet_injective (Option.some.inj hrequires)
  rw [hrequires]

theorem access_injective : Injective (Option.map AccessRule.toJson) :=
  Option.map_injective AccessRule.toJson_injective

theorem Scope.toJson_injective : Injective toJson := by
  rintro ⟨tenant, role, variant, locale⟩ ⟨tenant', role', variant', locale'⟩ h
  have hfields := present_inj (by simp) (by rfl) h
  simp only [List.cons.injEq, Prod.mk.injEq, true_and, and_true,
    optionalJson?_injective.eq_iff] at hfields
  obtain ⟨rfl, rfl, rfl, rfl⟩ := hfields
  rfl

theorem PageKind.text_injective : Injective text := by
  intro k k' h
  cases k <;> cases k' <;> simp_all [text]

theorem Binding.toJson_injective : Injective toJson := by
  intro b b' h
  cases b <;> cases b' <;> simp_all [toJson]

theorem Property.toJson_injective : Injective toJson := by
  rintro ⟨name, value⟩ ⟨name', value'⟩ h
  cases value <;> cases value' <;>
    simp_all [toJson, PropertyValue.kind, PropertyKind.text, Binding.toJson_injective.eq_iff]

theorem propertiesJson_injective : Injective propertiesJson :=
  fun _ _ h => (arr_map_inj Property.toJson_injective).1 h

theorem HttpRequest.toJson_injective : Injective toJson := by
  rintro ⟨method, url, headers, body, timeoutMs⟩ ⟨method', url', headers', body', timeoutMs'⟩ h
  have hfields := present_inj (by simp) (by rfl) h
  simp only [List.cons.injEq, Prod.mk.injEq, true_and, and_true, Option.some.injEq, str.injEq,
    textMap?_injective.eq_iff, timeout_injective.eq_iff] at hfields
  obtain ⟨rfl, rfl, rfl, rfl, rfl⟩ := hfields
  rfl

/-- Origins are told apart by the fields that can hold one. -/
theorem Origin.eq_of_fields {o o' : Origin}
    (h : ∀ name ∈ fieldNames, o.toJson.field? name = o'.toJson.field? name) : o = o' := by
  simp only [fieldNames, List.forall_mem_cons] at h
  cases o <;> cases o' <;>
    simp_all [toJson, List.lookup_cons, kindText, HttpRequest.toJson_injective.eq_iff,
      timeout_injective.eq_iff]

theorem Origin.toJson_injective : Injective toJson := by
  intro o o' h
  exact eq_of_fields fun name _ => by rw [h]

theorem DataSource.toJson_injective : Injective toJson := by
  intro s s' h
  have horigin : s.origin = s'.origin := Origin.eq_of_fields fun name hname => by
    rw [← s.field?_toJson name hname, h, s'.field?_toJson name hname]
  obtain ⟨hid, hcontract, haccess⟩ := s.ownField?_toJson
  obtain ⟨hid', hcontract', haccess'⟩ := s'.ownField?_toJson
  rw [h] at hid hcontract haccess
  obtain ⟨id, origin, contract, access⟩ := s
  obtain ⟨id', origin', contract', access'⟩ := s'
  obtain rfl : id = id' := str.inj (Option.some.inj (hid.symm.trans hid'))
  obtain rfl : origin = origin' := horigin
  obtain rfl : contract = contract' := textMap?_injective (hcontract.symm.trans hcontract')
  obtain rfl : access = access' := access_injective (haccess.symm.trans haccess')
  rfl

theorem Component.toJson_injective : Injective toJson := by
  rintro ⟨id, typeName, space, version, props, access⟩
    ⟨id', typeName', space', version', props', access'⟩ h
  have hfields := present_inj (by simp) (by rfl) h
  simp only [List.cons.injEq, Prod.mk.injEq, true_and, and_true, Option.some.injEq, str.injEq,
    access_injective.eq_iff, propertiesJson_injective.eq_iff,
    optionalJson?_injective.eq_iff] at hfields
  obtain ⟨rfl, rfl, rfl, rfl, rfl, rfl⟩ := hfields
  rfl

theorem Region.toJson_injective : Injective toJson := by
  rintro ⟨id, components⟩ ⟨id', components'⟩ h
  simp only [toJson, obj.injEq, List.cons.injEq, Prod.mk.injEq, true_and, and_true, str.injEq,
    arr_map_inj Component.toJson_injective] at h
  obtain ⟨rfl, rfl⟩ := h
  rfl

theorem Action.toJson_injective : Injective toJson := by
  rintro ⟨id, kind, config, access⟩ ⟨id', kind', config', access'⟩ h
  have hfields := present_inj (by simp) (by rfl) h
  simp only [List.cons.injEq, Prod.mk.injEq, true_and, and_true, Option.some.injEq, str.injEq,
    access_injective.eq_iff, propertiesJson_injective.eq_iff] at hfields
  obtain ⟨rfl, rfl, rfl, rfl⟩ := hfields
  rfl

theorem ComponentPatch.toJson_injective {node : Option String} : Injective (toJson node) := by
  rintro ⟨id, typeName, space, version, props, access⟩
    ⟨id', typeName', space', version', props', access'⟩ h
  have hfields := present_inj (by simp) (by rfl) h
  simp only [List.cons.injEq, Prod.mk.injEq, true_and, and_true, Option.some.injEq,
    access_injective.eq_iff, propertiesJson_injective.eq_iff,
    optionalJson?_injective.eq_iff] at hfields
  obtain ⟨rfl, rfl, rfl, rfl, rfl, rfl⟩ := hfields
  rfl

theorem Target.text_injective : Injective text := by
  intro t t' h
  cases t <;> cases t' <;> simp_all [text]

theorem Operation.text_injective : Injective text := by
  intro o o' h
  cases o <;> cases o' <;> simp_all [text]

theorem Payload.toJson_injective : Injective toJson := by
  intro p p' h
  have htarget : p.target = p'.target := by
    have hnode := p.node_toJson
    rw [h, p'.node_toJson] at hnode
    exact (Target.text_injective (str.inj (Option.some.inj hnode))).symm
  cases p with
  | region components =>
    cases p' with
    | region components' =>
      simp only [toJson, obj.injEq, List.cons.injEq, Prod.mk.injEq, true_and, and_true,
        arr_map_inj ComponentPatch.toJson_injective] at h
      rw [h.1]
    | _ => cases htarget
  | component patch =>
    cases p' with
    | component patch' => rw [ComponentPatch.toJson_injective h]
    | _ => cases htarget
  | dataSource patch =>
    cases p' with
    | dataSource patch' =>
      obtain ⟨origin, contract, access⟩ := patch
      obtain ⟨origin', contract', access'⟩ := patch'
      have hfields := present_inj (by simp) (by rfl) h
      simp only [List.cons.injEq, Prod.mk.injEq, true_and, and_true, access_injective.eq_iff,
        textMap?_injective.eq_iff, (Option.map_injective Origin.toJson_injective).eq_iff] at hfields
      obtain ⟨rfl, rfl, -, rfl⟩ := hfields
      rfl
    | _ => cases htarget
  | action patch =>
    cases p' with
    | action patch' =>
      obtain ⟨kind, config, access⟩ := patch
      obtain ⟨kind', config', access'⟩ := patch'
      have hfields := present_inj (by simp) (by rfl) h
      simp only [List.cons.injEq, Prod.mk.injEq, true_and, and_true, Option.some.injEq,
        access_injective.eq_iff, propertiesJson_injective.eq_iff,
        optionalJson?_injective.eq_iff] at hfields
      obtain ⟨rfl, rfl, rfl, -⟩ := hfields
      rfl
    | _ => cases htarget

theorem Patch.toJson_injective : Injective toJson := by
  rintro ⟨target, targetId, operation, payload⟩ ⟨target', targetId', operation', payload'⟩ h
  have hfields := present_inj (by simp) (by rfl) h
  simp only [List.cons.injEq, Prod.mk.injEq, true_and, and_true, Option.some.injEq, str.injEq,
    Operation.text_injective.eq_iff, Target.text_injective.eq_iff,
    (Option.map_injective Payload.toJson_injective).eq_iff] at hfields
  obtain ⟨rfl, rfl, rfl, rfl⟩ := hfields
  rfl

theorem Page.toJson_injective : Injective toJson := by
  intro p q h
  have hfields := present_inj (by simp) (by rfl) h
  simp only [List.cons.injEq, Prod.mk.injEq, true_and, and_true, Option.some.injEq, str.injEq,
    arr_map_inj Action.toJson_injective, arr_map_inj DataSource.toJson_injective,
    arr_map_inj Patch.toJson_injective, arr_map_inj Region.toJson_injective,
    optionalJson?_injective.eq_iff, PageKind.text_injective.eq_iff,
    Scope.toJson_injective.eq_iff] at hfields
  obtain ⟨hactions, hconstants, hcontent, hsources, hextends, hkind, hmodule, hid, hpatches,
    hregions, hroute, hschema, hscope⟩ := hfields
  have hconstants := ofMap_inj injective_id hconstants
  cases p
  cases q
  simp_all

/-! ### Texts and digests -/

theorem Text.Hexadecimal.no_comma {s : String} (h : Text.Hexadecimal s) : ',' ∉ s.toList := by
  intro hmem
  cases h.2 ',' hmem

/-- Texts without a comma can be told from what they make when commas stand between them. -/
theorem intercalate_comma_inj {l m : List String} (hl : l ≠ []) (hm : m ≠ [])
    (hcl : ∀ s ∈ l, ',' ∉ s.toList) (hcm : ∀ s ∈ m, ',' ∉ s.toList)
    (h : ",".intercalate l = ",".intercalate m) : l = m := by
  have hback {l : List String} (hl : l ≠ []) (hcl : ∀ s ∈ l, ',' ∉ s.toList) :
      (",".intercalate l).toList.splitOn ',' = l.map String.toList := by
    rw [String.toList_intercalate]
    exact List.splitOn_intercalate ',' (by simpa using hcl) (by simpa using hl)
  have hpieces : l.map String.toList = m.map String.toList := by
    rw [← hback hl hcl, h, hback hm hcm]
  exact List.map_injective_iff.2 (fun _ _ => String.toList_injective) hpieces

namespace Page

variable {p q : Page} {cs ds : List String}

/-- The floats of two pages have one text only where they are equal. -/
def FloatsApart (p q : Page) : Prop := Number.FloatsApart p.toJson.numbers q.toJson.numbers

instance : Decidable (FloatsApart p q) := inferInstanceAs (Decidable (Number.FloatsApart _ _))

theorem canonicalText_append_inj {s t : String} (hfloats : FloatsApart p q) (hs : Closed s.toList)
    (ht : Closed t.toList) (h : p.canonicalText ++ s = q.canonicalText ++ t) : p = q ∧ s = t := by
  obtain ⟨hjson, hrest⟩ := text_append_inj hfloats hs ht h
  exact ⟨toJson_injective hjson, hrest⟩

theorem canonicalText_inj (hfloats : FloatsApart p q) (h : p.canonicalText = q.canonicalText) :
    p = q := by
  have hclosed : Closed "".toList := nofun
  exact (canonicalText_append_inj hfloats hclosed hclosed (congrArg (· ++ "") h)).1

theorem fingerprintText_inj (hfloats : FloatsApart p q) (hcs : cs ≠ []) (hds : ds ≠ [])
    (hcsHex : ∀ c ∈ cs, Text.Hexadecimal c) (hdsHex : ∀ d ∈ ds, Text.Hexadecimal d)
    (h : p.fingerprintText cs = q.fingerprintText ds) : p = q ∧ cs = ds := by
  have hclosed (s : String) : Closed (":" ++ s).toList := by
    intro c hc
    rw [String.toList_append] at hc
    obtain rfl := Option.some.inj hc
    rfl
  rw [fingerprintText, fingerprintText, String.append_assoc, String.append_assoc] at h
  obtain ⟨rfl, hrest⟩ := canonicalText_append_inj hfloats (hclosed _) (hclosed _) h
  have hjoined := (String.append_right_inj ":").1 hrest
  exact ⟨rfl, intercalate_comma_inj hcs hds (fun c hc => (hcsHex c hc).no_comma)
    (fun d hd => (hdsHex d hd).no_comma) hjoined⟩

theorem checksum_inj (hfloats : FloatsApart p q)
    (hdigest : Sha256.Apart p.canonicalText q.canonicalText) (h : p.checksum = q.checksum) :
    p = q :=
  canonicalText_inj hfloats (hdigest h)

/-- Layers are told apart by their checksums. -/
theorem map_checksum_inj {ps qs : List Page} (hfloats : ∀ a ∈ ps, ∀ b ∈ qs, FloatsApart a b)
    (hdigests : ∀ a ∈ ps, ∀ b ∈ qs, Sha256.Apart a.canonicalText b.canonicalText)
    (h : ps.map checksum = qs.map checksum) : ps = qs := by
  induction ps generalizing qs with
  | nil => exact (List.map_eq_nil_iff.1 h.symm).symm
  | cons a ps ih =>
    cases qs with
    | nil => cases h
    | cons b qs =>
      obtain ⟨hfirst, hrest⟩ := List.cons.inj h
      have hab := checksum_inj (hfloats a List.mem_cons_self b List.mem_cons_self)
        (hdigests a List.mem_cons_self b List.mem_cons_self) hfirst
      have hmore := ih
        (fun x hx y hy => hfloats x (List.mem_cons_of_mem a hx) y (List.mem_cons_of_mem b hy))
        (fun x hx y hy => hdigests x (List.mem_cons_of_mem a hx) y (List.mem_cons_of_mem b hy))
        hrest
      rw [hab, hmore]

/-- Equal canonical texts are those of one page, and equal texts under fingerprints those of one
page and one list of checksums. So where digests do not collide, equal checksums mean equal pages,
and equal fingerprints one merged page from the same layers. -/
theorem identified_by_texts (hfloats : FloatsApart p q) :
    (p.canonicalText = q.canonicalText → p = q) ∧
    (∀ cs ds : List String, cs ≠ [] → ds ≠ [] → (∀ c ∈ cs, Text.Hexadecimal c) →
      (∀ d ∈ ds, Text.Hexadecimal d) → p.fingerprintText cs = q.fingerprintText ds →
      p = q ∧ cs = ds) ∧
    (Sha256.Apart p.canonicalText q.canonicalText → p.checksum = q.checksum → p = q) ∧
    ∀ ps qs : List Page, ps ≠ [] → qs ≠ [] →
      (∀ a ∈ ps, ∀ b ∈ qs, FloatsApart a b ∧ Sha256.Apart a.canonicalText b.canonicalText) →
      Sha256.Apart (p.fingerprintText (ps.map checksum)) (q.fingerprintText (qs.map checksum)) →
      p.fingerprint (ps.map checksum) = q.fingerprint (qs.map checksum) → p = q ∧ ps = qs := by
  refine ⟨canonicalText_inj hfloats, ?_, checksum_inj hfloats, ?_⟩
  · intro cs ds hcs hds hcsHex hdsHex h
    exact fingerprintText_inj hfloats hcs hds hcsHex hdsHex h
  · intro ps qs hps hqs hlayers hdigest h
    have hhex (l : List Page) : ∀ c ∈ l.map checksum, Text.Hexadecimal c := by
      intro c hc
      obtain ⟨a, -, rfl⟩ := List.mem_map.1 hc
      exact Sha256.hexadecimal_ofText _
    obtain ⟨hpage, hchecksums⟩ := fingerprintText_inj hfloats (by simpa using hps)
      (by simpa using hqs) (hhex ps) (hhex qs) (hdigest h)
    exact ⟨hpage, map_checksum_inj (fun a ha b hb => (hlayers a ha b hb).1)
      (fun a ha b hb => (hlayers a ha b hb).2) hchecksums⟩

end Page

/-- Two notices that differ in one word, under checksums that differ in where they are cut. -/
theorem notices_identified :
    (notice "home" "1.0.0").canonicalText ≠ (notice "start" "1.0.0").canonicalText ∧
    (notice "home" "1.0.0").fingerprintText ["ab", "c0"] ≠
      (notice "start" "1.0.0").fingerprintText ["abc0"] ∧
    (notice "home" "1.0.0").checksum ≠ (notice "start" "1.0.0").checksum := by
  have hne : notice "home" "1.0.0" ≠ notice "start" "1.0.0" := by decide
  obtain ⟨htext, hfingerprint, hchecksum, -⟩ :=
    Page.identified_by_texts (p := notice "home" "1.0.0") (q := notice "start" "1.0.0")
      (by decide +kernel)
  have hapart : Sha256.Apart (notice "home" "1.0.0").canonicalText
      (notice "start" "1.0.0").canonicalText :=
    fun h => absurd h checksum_notice_ne
  refine ⟨mt htext hne, fun h => hne ?_, mt (hchecksum hapart) hne⟩
  exact (hfingerprint ["ab", "c0"] ["abc0"] (by decide) (by decide) (by decide +kernel)
    (by decide +kernel) h).1

end PageLayers
