import Disassembly.CommandLine.Program
import Disassembly.Platform.Standard
import Disassembly.Proofs.Cache.Search
import Mathlib.Tactic

/-!
# All ways to look up a method

The listing of a method is reached in several ways: as an entry of a cache, as a text, as a listing
that was read, and by the command that prints it. `runLookup_selects` says that they all show the
same entry, that of the best match among the signatures of the cache.
-/

set_option autoImplicit false

namespace Disassembly

/-- A text that is read is read to its end. -/
theorem Listing.read_eq_ok_iff {t : Text} {l : Listing} :
    read t = .ok l ↔ attempt t = (l, none) := by
  rw [read]
  obtain ⟨m, fault⟩ := attempt t
  cases fault <;> simp

namespace Cache

variable {c : Cache} {signature : Text} {found : Found}

theorem listingText?_of_find (h : c.find signature = .ok found) :
    c.listingText? signature = .ok (found.entry.map Entry.listing) := by
  rw [listingText?, h]
  rfl

/-- The listing of a method is what is read from the text of its entry. -/
theorem listing_of_find (h : c.find signature = .ok found) :
    c.listing signature = found.entry.elim (.ok .empty) fun e =>
      (Listing.read e.listing).mapError .overlongOffset := by
  rw [listing, listingText?_of_find h]
  cases found.entry <;> rfl

end Cache

namespace CommandLine.Command

variable {p : Platform} {c : Cache} {signature : Text} {found : Cache.Found} {format : Format}
  {d : Disk}

theorem showListing_of_read {t : Text} {l : Listing} (h : Listing.read t = .ok l) :
    showListing p t format d = .exit 0 (l.render p.yaml format ++ ['\n']) l.notices d := by
  rw [showListing, Listing.read_eq_ok_iff.1 h]

/-- Nothing is found: the command says so and ends with one. -/
theorem showMember_of_none (h : c.find signature = .ok found) (hentry : found.entry = none) :
    (showMember p c signature format d).result = .ok 1 ∧
      (showMember p c signature format d).output =
        "Bytecode not available for ".toList ++ signature ++ ['\n'] := by
  rw [showMember, h]
  simp only [hentry]
  exact ⟨rfl, rfl⟩

/-- An entry is found and can be read: the command prints its signature and its listing. -/
theorem showMember_of_some (h : c.find signature = .ok found) {e : Cache.Entry}
    (hentry : found.entry = some e) {l : Listing} (hread : Listing.read e.listing = .ok l) :
    (showMember p c signature format d).result = .ok 0 ∧
      (showMember p c signature format d).output =
        "// ".toList ++ e.signature ++ ['\n'] ++ (l.render p.yaml format ++ ['\n']) := by
  rw [showMember, h]
  simp only [hentry, showListing_of_read hread]
  exact ⟨rfl, rfl⟩

/-- All ways to look up a method agree. A search finds the entry of the best match among the
signatures of the cache, also where the signature itself is one of them, and in whatever order the
entries of the cache arrived. The text of the method is that of the entry, its listing is what is
read from that text, and nothing where there is no entry. On every platform, for a file with that
cache, the command prints the signature of the entry and the same listing and ends with zero, if the
text can be read; without an entry it ends with one. A cache holds texts, so all of it can be
printed; a file with halves of surrogate pairs gives none. -/
theorem runLookup_selects (c : Cache) (signature : Text) :
    ∃ entry, c.Selects signature entry ∧
      (c.find signature).map Cache.Found.entry = .ok entry ∧
      (c.signatures.Nodup → ∀ other : Cache, other.entries.Perm c.entries →
        other.find signature = c.find signature) ∧
      c.listingText? signature = .ok (entry.map Cache.Entry.listing) ∧
      c.listing signature = entry.elim (.ok .empty) (fun e =>
        (Listing.read e.listing).mapError .overlongOffset) ∧
      ∀ (p : Platform) (d : Disk) (cacheFile : Text) (format : Format),
        Cache.load p d cacheFile = .ok c →
        (entry = none →
          (runLookup p cacheFile (some signature) format d).result = .ok 1 ∧
            (runLookup p cacheFile (some signature) format d).output =
              "Bytecode not available for ".toList ++ signature ++ ['\n']) ∧
        ∀ e l, entry = some e → c.listing signature = .ok l →
          (runLookup p cacheFile (some signature) format d).result = .ok 0 ∧
            (runLookup p cacheFile (some signature) format d).output =
              "// ".toList ++ e.signature ++ ['\n'] ++ (l.render p.yaml format ++ ['\n']) := by
  obtain ⟨found, hfound, hselects⟩ := c.exists_find_selects signature
  refine ⟨found.entry, hselects, by rw [hfound]; rfl, fun hnodup other hperm => ?_,
    Cache.listingText?_of_find hfound, Cache.listing_of_find hfound,
    fun p d cacheFile format hload => ?_⟩
  · exact Cache.find_congr (Cache.get?_perm hnodup hperm) signature
  · rw [runLookup, hload]
    refine ⟨showMember_of_none hfound, fun e l hentry hlisting => ?_⟩
    -- the listing can be read, so the text of the entry can
    rw [Cache.listing_of_find hfound, hentry, Option.elim_some] at hlisting
    cases hread : Listing.read e.listing with
    | error err =>
      rw [hread] at hlisting
      cases hlisting
    | ok read =>
      rw [hread] at hlisting
      cases hlisting
      exact showMember_of_some hfound hentry hread

/-- The text of a file with two methods, of which the first has an empty listing. -/
def sumFile : Text :=
  "\x7b\"void run()\": \"\", \"int sum(long, int[])\": \"0: iconst_0\"\x7d".toList

/-- The cache in that file. -/
def sumCache : Cache :=
  ⟨[("void run()".toList, []), ("int sum(long, int[])".toList, "0: iconst_0".toList)]⟩

/-- The listing of its second method. -/
def sumListing : Listing :=
  ⟨[⟨0, ⟨⟨3, by decide⟩⟩, [], none⟩], []⟩

/-- A disk that holds nothing but the file. -/
def sumDisk : Disk :=
  (Disk.empty []).install ["c".toList] (.file (Disk.encode sumFile))

/-- A signature that is no key of the cache. -/
def sumSignature : Text :=
  "public int sum(long n, int... xs);".toList

theorem runLookup_selects_sum :
    sumCache.signatures.Nodup ∧ Cache.load .standard sumDisk "c".toList = .ok sumCache ∧
      (Cache.mk sumCache.entries.reverse).find sumSignature = sumCache.find sumSignature ∧
      (runLookup .standard "c".toList (some sumSignature) .text sumDisk).result = .ok 0 ∧
      (runLookup .standard "c".toList (some sumSignature) .text sumDisk).output =
        "// int sum(long, int[])\n0: iconst_0\n".toList ∧
      (runLookup .standard "c".toList (some "void stop()".toList) .text sumDisk).result =
        .ok 1 := by
  have hnodup : sumCache.signatures.Nodup := by decide
  have hload : Cache.load .standard sumDisk "c".toList = .ok sumCache := rfl
  obtain ⟨entry, hselects, -, horder, -, hlisting, hcommand⟩ :=
    runLookup_selects sumCache sumSignature
  obtain ⟨missed, hmissed, -, -, -, -, hstop⟩ := runLookup_selects sumCache "void stop()".toList
  have hentry : entry = some ⟨"int sum(long, int[])".toList, "0: iconst_0".toList⟩ :=
    hselects.unique (.found (by decide +kernel) rfl)
  have hnone : missed = none := hmissed.unique (.missed (by decide +kernel))
  have hread : sumCache.listing sumSignature = .ok sumListing := by
    rw [hlisting, hentry]
    rfl
  obtain ⟨hresult, houtput⟩ :=
    (hcommand .standard sumDisk "c".toList .text hload).2 _ _ hentry hread
  exact ⟨hnodup, hload, horder hnodup _ (List.reverse_perm _), hresult, houtput,
    ((hstop .standard sumDisk "c".toList .text hload).1 hnone).1⟩

end CommandLine.Command

end Disassembly
