import LinkGuardian.Dataplane.Headers

/-!
# Ethernet frames on their way through the two switches

The bit strings that a frame turns into: bare, with the LinkRadar headers in front of its body,
or as a copy in one of the two buffers.  A switch may also change the body of an IPv4 frame:
every deparser that has parsed the header writes its checksum anew, and the sender may set the
ECN field.  `Ipv4.Rewritten` is what any number of such passes comes to.
-/

namespace LinkGuardian

open P4 WireFormat

/-! ## Shapes on the wire -/

/-- A bare frame. -/
def frameBits (e : Ethernet) (body : List Bool) : List Bool := ethernetFormat.emit e ++ body

namespace Ethernet

/-- The same addresses, with the LinkRadar ether type. -/
def asLinkradar (e : Ethernet) : Ethernet := { e with etherType := EtherType.linkradar }

/-- The same addresses, with the IPv4 ether type. -/
def asIpv4 (e : Ethernet) : Ethernet := { e with etherType := EtherType.ipv4 }

@[simp] lemma asLinkradar_etherType (e : Ethernet) :
    e.asLinkradar.etherType = EtherType.linkradar := rfl
@[simp] lemma asIpv4_etherType (e : Ethernet) : e.asIpv4.etherType = EtherType.ipv4 := rfl

lemma asIpv4_eq_self_iff (e : Ethernet) : e.asIpv4 = e ↔ e.etherType = EtherType.ipv4 := by
  constructor
  · intro h
    rw [← h, asIpv4_etherType]
  · intro h
    cases e
    simp_all [asIpv4]

end Ethernet

/-- A protected packet on the link. -/
def dataBits (e : Ethernet) (d : LinkradarData) (body : List Bool) : List Bool :=
  frameBits e.asLinkradar (linkradarDataFormat.emit d ++ body)

/-- A copy in the buffer of the sender. -/
def bufferedBits (e : Ethernet) (b : LinkradarBuffered) (d : LinkradarData) (body : List Bool) :
    List Bool :=
  frameBits e.asLinkradar (linkradarBufferedFormat.emit b ++ (linkradarDataFormat.emit d ++ body))

/-- A frame with a piggybacked leading ack. -/
def lackBits (e : Ethernet) (l : LinkradarLack) (body : List Bool) : List Bool :=
  frameBits e.asLinkradar (linkradarLackFormat.emit l ++ body)

lemma linkradar_ne_ipv4 : EtherType.linkradar ≠ EtherType.ipv4 := by decide
lemma linkradar_ne_arp : EtherType.linkradar ≠ EtherType.arp := by decide
lemma linkradar_ne_pktgen : EtherType.linkradar ≠ EtherType.pktgen := by decide
lemma ipv4_ne_linkradar : EtherType.ipv4 ≠ EtherType.linkradar := by decide

/-! Every LinkRadar header starts with the two bits that tell its type. -/

lemma extract_type_linkradarData (d : LinkradarData) (rest : List Bool) :
    ((bits 2).extract (linkradarDataFormat.emit d ++ rest)).map Prod.fst = some d.type := by
  change (((bits 2).extract (((bits 2).emit d.type ++ _) ++ rest)).map Prod.fst) = _
  rw [List.append_assoc, (bits 2).extract_emit, Option.map_some]

lemma extract_type_linkradarLack (l : LinkradarLack) (rest : List Bool) :
    ((bits 2).extract (linkradarLackFormat.emit l ++ rest)).map Prod.fst = some l.type := by
  change (((bits 2).extract (((bits 2).emit l.type ++ _) ++ rest)).map Prod.fst) = _
  rw [List.append_assoc, (bits 2).extract_emit, Option.map_some]

lemma extract_type_linkradarBuffered (b : LinkradarBuffered) (rest : List Bool) :
    ((bits 2).extract (linkradarBufferedFormat.emit b ++ rest)).map Prod.fst = some b.type := by
  change (((bits 2).extract (((bits 2).emit b.type ++ _) ++ rest)).map Prod.fst) = _
  rw [List.append_assoc, (bits 2).extract_emit, Option.map_some]

/-! ## What happens to the body of an IPv4 frame -/

namespace Ipv4

/-- The header with the ECN field set to congestion experienced. -/
def markCe (h : Ipv4) : Ipv4 := { h with ecn := 0b11 }

/-- The header of an ECN-capable transport. -/
def IsEct (h : Ipv4) : Prop := h.ecn = 0b01 ∨ h.ecn = 0b10

instance (h : Ipv4) : Decidable h.IsEct := inferInstanceAs (Decidable (_ ∨ _))

@[simp] lemma updateChecksum_updateChecksum (h : Ipv4) :
    h.updateChecksum.updateChecksum = h.updateChecksum := rfl

/-- The checksum written anew. -/
def Refreshed (h h' : Ipv4) : Prop := h' = h.updateChecksum

/-- The checksum written anew, the ECN field of a capable header possibly marked. -/
def Rewritten (h h' : Ipv4) : Prop :=
  h' = h.updateChecksum ∨ (h.IsEct ∧ h' = h.markCe.updateChecksum)

lemma Refreshed.rewritten {h h' : Ipv4} (hr : h.Refreshed h') : h.Rewritten h' := Or.inl hr

lemma Refreshed.trans {h h' h'' : Ipv4} (h₁ : h.Refreshed h') (h₂ : h'.Refreshed h'') :
    h.Refreshed h'' := by
  unfold Refreshed at *
  rw [h₂, h₁, updateChecksum_updateChecksum]

lemma Rewritten.trans {h h' h'' : Ipv4} (h₁ : h.Rewritten h') (h₂ : h'.Rewritten h'') :
    h.Rewritten h'' := by
  rcases h₁ with rfl | ⟨hect, rfl⟩
  · rcases h₂ with rfl | ⟨hect, rfl⟩
    · exact Or.inl rfl
    · exact Or.inr ⟨hect, rfl⟩
  · rcases h₂ with rfl | ⟨hect', rfl⟩
    · exact Or.inr ⟨hect, rfl⟩
    · exact Or.inr ⟨hect, rfl⟩

end Ipv4

/-- What becomes of the body of a frame when its IPv4 header, if it has one, changes by `R`. -/
def BodyChanged (R : Ipv4 → Ipv4 → Prop) (etherType : BitVec 16) (body body' : List Bool) : Prop :=
  if etherType = EtherType.ipv4 then
    ∃ h h' rest, body = ipv4Format.emit h ++ rest ∧ body' = ipv4Format.emit h' ++ rest ∧ R h h'
  else body' = body

lemma BodyChanged.mono {R R' : Ipv4 → Ipv4 → Prop} (hR : ∀ h h', R h h' → R' h h') {t : BitVec 16}
    {b b' : List Bool} (h : BodyChanged R t b b') : BodyChanged R' t b b' := by
  unfold BodyChanged at *
  split at h
  · rename_i ht
    obtain ⟨i, i', rest, hb, hb', hr⟩ := h
    rw [if_pos ht]
    exact ⟨i, i', rest, hb, hb', hR _ _ hr⟩
  · rename_i ht
    rwa [if_neg ht]

lemma BodyChanged.trans {R : Ipv4 → Ipv4 → Prop} (hR : ∀ h h' h'', R h h' → R h' h'' → R h h'')
    {t : BitVec 16} {b b' b'' : List Bool} (h₁ : BodyChanged R t b b')
    (h₂ : BodyChanged R t b' b'') : BodyChanged R t b b'' := by
  unfold BodyChanged at *
  split at h₁
  · rename_i ht
    rw [if_pos ht] at h₂ ⊢
    obtain ⟨h, h', rest, rfl, rfl, hr⟩ := h₁
    obtain ⟨k, k', rest', heq, rfl, hr'⟩ := h₂
    obtain ⟨rfl, rfl⟩ := emit_append_inj ipv4Format heq
    exact ⟨h, k', rest, rfl, rfl, hR _ _ _ hr hr'⟩
  · rename_i ht
    rw [if_neg ht] at h₂ ⊢
    rw [h₂, h₁]

lemma BodyChanged.length_eq {R : Ipv4 → Ipv4 → Prop} {t : BitVec 16} {b b' : List Bool}
    (h : BodyChanged R t b b') : b'.length = b.length := by
  unfold BodyChanged at h
  split at h
  · obtain ⟨i, i', rest, rfl, rfl, -⟩ := h
    rw [List.length_append, List.length_append, hasWidth_ipv4.length_emit,
      hasWidth_ipv4.length_emit]
  · rw [h]

/-- A frame that a switch has passed on and then, as an IPv4 frame, another one. -/
lemma BodyChanged.trans_ipv4 {R : Ipv4 → Ipv4 → Prop}
    (hR : ∀ h h' h'', R h h' → R h' h'' → R h h'') {t : BitVec 16} {b b' b'' : List Bool}
    (h₁ : BodyChanged R t b b') (h₂ : BodyChanged R EtherType.ipv4 b' b'') :
    BodyChanged R EtherType.ipv4 b b'' := by
  by_cases ht : t = EtherType.ipv4
  · rw [ht] at h₁
    exact h₁.trans hR h₂
  · unfold BodyChanged at h₁
    rw [if_neg ht] at h₁
    rwa [h₁] at h₂

/-- A switch that may mark the frame has passed it on. -/
abbrev BodyPassed : BitVec 16 → List Bool → List Bool → Prop := BodyChanged Ipv4.Rewritten

/-- A switch that does not mark the frame has passed it on. -/
abbrev BodyRefreshed : BitVec 16 → List Bool → List Bool → Prop := BodyChanged Ipv4.Refreshed

lemma BodyChanged.passed {t : BitVec 16} {b b' : List Bool} (h : BodyRefreshed t b b') :
    BodyPassed t b b' :=
  h.mono fun _ _ => Ipv4.Refreshed.rewritten

lemma BodyChanged.refreshed_trans {t : BitVec 16} {b b' b'' : List Bool}
    (h₁ : BodyRefreshed t b b') (h₂ : BodyRefreshed t b' b'') : BodyRefreshed t b b'' :=
  BodyChanged.trans (R := Ipv4.Refreshed) (fun _ _ _ => Ipv4.Refreshed.trans) h₁ h₂

lemma BodyChanged.passed_trans {t : BitVec 16} {b b' b'' : List Bool} (h₁ : BodyPassed t b b')
    (h₂ : BodyPassed t b' b'') : BodyPassed t b b'' :=
  BodyChanged.trans (R := Ipv4.Rewritten) (fun _ _ _ => Ipv4.Rewritten.trans) h₁ h₂

end LinkGuardian
