/-
# Where photos are downloaded from

A request names a photo by a text, which is put after the base of all photos.  That base comes from
the configuration and ends in a slash (`ServiceConfig.mediaBase_folder`).  So where it is an address,
every photo is downloaded from the same host, by the same scheme and with the same number.

| a request names | the path |
| :-- | :-- |
| a text without a climb | begins with that of the base |
| a text with climbs | begins with what the climbs leave of that of the base |
| anything, after a base with a query or a fragment | is that of the base |

The path is not confined to that of the base: `../` in front of a text leads to the folder above.
-/
import Placard.Proofs.Asset.Download
import Placard.Proofs.Asset.Onward
import Placard.Proofs.Failure
import Placard.Service.Answer

namespace Placard

theorem ServiceConfig.mediaBase_folder {slots : Nat} {text : String} {c : ServiceConfig}
    (h : ServiceConfig.ofText slots text = .ok c) : ∃ cs, c.mediaBase.toList = cs ++ ['/'] := by
  unfold ofText at h
  split at h
  · cases h
  · rename_i v hv
    cases hr : Yaml.Reading.record fields (default slots) v with
    | error e =>
        rw [hr] at h
        cases h
    | ok d =>
        rw [hr] at h
        cases h
        unfold normalized
        dsimp only
        split
        · exact Text.endsWith_slash ‹_›
        · exact ⟨d.mediaBase.toList, by rw [String.toList_append]; rfl⟩

namespace Service

variable {s : Service} {q : Query} {route : Route} {uri : String}

/-- The texts that a request names photos by. -/
def photoSources (q : Query) : Route → List String
  | .single _ source => [source]
  | .pair _ => [q.get "img_source1", q.get "img_source2"]
  | .frame source => [source]
  | _ => []

/-- The addresses that a route makes of them, as they are handed on; empty ones are left out. -/
def photoAddresses (s : Service) (q : Query) : Route → List String
  | .single template source => [(s.singleValues template source q).text "source"]
  | .pair template =>
    ["img_source1", "img_source2"].map (s.pairValues template q).text |>.filter (· ≠ "")
  | .frame source => [s.config.mediaUrl source]
  | _ => []

/-- Every address of a photo is a text that the request names one by, put after the base. -/
theorem mem_photoAddresses (h : uri ∈ s.photoAddresses q route) :
    ∃ source ∈ photoSources q route, uri = s.config.mediaUrl source := by
  cases route with
  | ready => cases h
  | listing => cases h
  | code template => cases h
  | frame source => exact ⟨source, List.mem_singleton_self _, List.mem_singleton.mp h⟩
  | single template source =>
      exact ⟨source, List.mem_singleton_self _, List.mem_singleton.mp h⟩
  | pair template =>
      obtain ⟨hmem, hne⟩ := List.mem_filter.mp h
      have hphoto : ∀ source, uri = s.optionalPhoto source → uri = s.config.mediaUrl source := by
        intro source hu
        unfold optionalPhoto at hu
        split at hu
        · rw [hu] at hne
          cases hne
        · exact hu
      rcases List.mem_pair.mp hmem with hu | hu
      · exact ⟨q.get "img_source1", List.mem_cons_self, hphoto _ hu⟩
      · exact ⟨q.get "img_source2", List.mem_pair.mpr (Or.inr rfl), hphoto _ hu⟩

/-- Where photos are downloaded from, for the service of any configuration that is read and whatever
a request names.

If the base of all photos is an address, every photo is downloaded from one with the same scheme, host
and number.  The path of that is the path of the base, if the base has a query or a fragment.
Otherwise it goes on from the path of the base, less a part for each climb of the text.  So it begins
with the path of the base if the text makes no climb, and whatever the text, if the base has no path of
its own.

If the base is none, photos have no address on the web either, unless it is a scheme with nothing but
slashes after it. -/
theorem photo_goes_on_from_base {slots : Nat} {text : String}
    (h : ServiceConfig.ofText slots text = .ok s.config) (hu : uri ∈ s.photoAddresses q route) :
    ∃ source ∈ photoSources q route, uri = s.config.mediaUrl source ∧
      (∀ base, Location.parse? s.config.mediaBase = some (.web base) →
        ∃ a, Location.parse? uri = some (.web a) ∧
          (∀ assets : AssetSource, assets.get uri =
            (Fetcher.download assets.fetcher.network a).mapError .fetch) ∧
          Location.SameOrigin a base ∧
          let parts := Location.ownParts (Text.trimStart '/' source)
          (a.path = if Location.HasQuery s.config.mediaBase.toList then base.path
            else Location.goOn base.path parts) ∧
          (Location.climbs [] parts = 0 ∨ base.path = [""] →
            ∃ rest, Location.joinParts a.path = Location.joinParts base.path ++ rest)) ∧
      ((∀ base, Location.parse? s.config.mediaBase ≠ some (.web base)) →
        ¬ Location.Hostless s.config.mediaBase → ∀ a, Location.parse? uri ≠ some (.web a)) := by
  obtain ⟨cs, hfolder⟩ := ServiceConfig.mediaBase_folder h
  obtain ⟨source, hsource, rfl⟩ := mem_photoAddresses hu
  refine ⟨source, hsource, rfl, ?_, ?_⟩
  · intro base hbase
    obtain ⟨a, ha, horigin, hpath⟩ := Location.web_append hfolder hbase (Text.trimStart '/' source)
    refine ⟨a, ha, fun assets => AssetSource.get_of_web ha, horigin, hpath, ?_⟩
    intro hclimb
    by_cases hquery : Location.HasQuery s.config.mediaBase.toList
    · rw [if_pos hquery] at hpath
      exact ⟨"", by rw [hpath, String.append_empty]⟩
    · rw [if_neg hquery] at hpath
      rw [hpath]
      exact Location.joinParts_goOn (Location.path_of_folder hfolder hbase hquery) hclimb
        Text.splitList_ne_nil
  · intro hbase hhost a ha
    rcases Location.web_of_append hfolder ha with ⟨base, hb⟩ | hhostless
    · exact hbase base hb
    · exact hhost hhostless

/-- A service whose photos are in a folder of their host. -/
def withPhotos (c : ServiceConfig) : Service := .ofAssets c (.ofPictures [])

/-- The document of its configuration. -/
def photoFolder : String := "media_upstream: HTTPS://cdn.example.org:8443/img\n"

/-- A photo that a request names with a climb that it makes up for. -/
theorem photo_goes_on_from_base_of_folder :
    ∃ c a, ServiceConfig.ofText 1 photoFolder = .ok c ∧
      Location.parse? (c.mediaUrl "/a/../p/1.jpg?v=2") = some (.web a) ∧
      a.host = "cdn.example.org" ∧ a.portNumber = 8443 ∧
      ∃ rest, Location.joinParts a.path = "/img/" ++ rest := by
  have hc : ((ServiceConfig.ofText 1 photoFolder).toOption.any fun c =>
      decide (Location.parse? c.mediaBase =
        some (.web ⟨true, "cdn.example.org", 8443, ["img", ""], none⟩))) = true := by
    decide +kernel
  obtain ⟨c, hl, hc⟩ := any_toOption.mp hc
  have hbase := of_decide_eq_true hc
  have hu : c.mediaUrl "/a/../p/1.jpg?v=2" ∈
      (withPhotos c).photoAddresses ⟨[]⟩ (.frame "/a/../p/1.jpg?v=2") := List.mem_singleton_self _
  obtain ⟨source, hsource, -, hweb, -⟩ := photo_goes_on_from_base (s := withPhotos c) hl hu
  cases List.mem_singleton.mp hsource
  obtain ⟨a, ha, -, horigin, -, hrest⟩ := hweb _ hbase
  refine ⟨c, a, hl, ha, horigin.host, horigin.portNumber, ?_⟩
  exact hrest (Or.inl (by decide +kernel))

/-- The document of a configuration whose photos have no host. -/
def hostlessPhotos : String := "media_upstream: https://\n"

/-- A request may name a photo that is not below the folder, and if the base has no host, it names the
host as well. -/
theorem climbing_photo_leaves_base :
    (Route.ofParts? (Target.ofText "/frame/%2e%2e/private/1.jpg").parts).bind Route.decoded? =
        some (.frame "../private/1.jpg") ∧
      (∃ c base a, ServiceConfig.ofText 1 photoFolder = .ok c ∧
        Location.parse? c.mediaBase = some (.web base) ∧
        Location.parse? (c.mediaUrl "../private/1.jpg") = some (.web a) ∧
        Location.joinParts base.path = "/img/" ∧ Location.joinParts a.path = "/private/1.jpg" ∧
        ¬ ∃ rest, Location.joinParts a.path = Location.joinParts base.path ++ rest) ∧
      ∃ c a, ServiceConfig.ofText 1 hostlessPhotos = .ok c ∧ Location.parse? c.mediaBase = none ∧
        Location.parse? (c.mediaUrl "other.example.org/1.jpg") = some (.web a) ∧
        a.host = "other.example.org" := by
  have hc : ((ServiceConfig.ofText 1 photoFolder).toOption.any fun c =>
      decide (Location.parse? c.mediaBase =
          some (.web ⟨true, "cdn.example.org", 8443, ["img", ""], none⟩) ∧
        Location.parse? (c.mediaUrl "../private/1.jpg") =
          some (.web ⟨true, "cdn.example.org", 8443, ["private", "1.jpg"], none⟩))) = true := by
    decide +kernel
  have hd : ((ServiceConfig.ofText 1 hostlessPhotos).toOption.any fun c =>
      decide (Location.parse? c.mediaBase = none ∧
        Location.parse? (c.mediaUrl "other.example.org/1.jpg") =
          some (.web ⟨true, "other.example.org", 443, ["1.jpg"], none⟩))) = true := by
    decide +kernel
  obtain ⟨c, hl, hc⟩ := any_toOption.mp hc
  obtain ⟨hbase, ha⟩ := of_decide_eq_true hc
  obtain ⟨d, hl', hd⟩ := any_toOption.mp hd
  obtain ⟨hbase', ha'⟩ := of_decide_eq_true hd
  refine ⟨by decide +kernel, ⟨c, _, _, hl, hbase, ha, by decide +kernel, by decide +kernel, ?_⟩,
    d, _, hl', hbase', ha', rfl⟩
  rintro ⟨rest, hrest⟩
  have hlist := congrArg String.toList hrest
  rw [String.toList_append] at hlist
  exact absurd (congrArg (List.take 2) hlist) (by simp [Location.joinParts])

end Service
end Placard
