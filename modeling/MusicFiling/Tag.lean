import MusicFiling.Text.Case

/-!
# Tags

The closed set of tags that a pattern may name. A tag is written loosely: case does not matter and
the first underscore is dropped, so `album_artist` and `AlbumArtist` both name the album artist.
This is the only place where names become tags.
-/

namespace MusicFiling

/-- A tag of a music file. The extension is not read from the file's tags but from its name. -/
inductive Tag where
  | album | albumArtist | artist | barcode | bpm | byline | catalogId | catalogNumber
  | composer | conductor | copyright | country | credits | date | description | discNumber
  | discTotal | encodedBy | gain | genre | grouping | id | isrc | label
  | language | length | location | lyrics | mcdi | media | mediaType | norm
  | organization | origYear | peak | performer | pgap | pmedia | provider | publisher
  | releaseCountry | smpb | style | tbpm | title | tlen | tmed | tool
  | totalDiscs | totalTracks | trackNumber | trackTotal | tsrc | type | upc | uploader
  | url | website | wmCollectionId | work | www | wwwAudioFile | wwwAudioSource | extension
  deriving DecidableEq, Repr

namespace Tag

/-- Every tag. -/
def all : List Tag :=
  [.album, .albumArtist, .artist, .barcode, .bpm, .byline, .catalogId, .catalogNumber, .composer,
   .conductor, .copyright, .country, .credits, .date, .description, .discNumber, .discTotal,
   .encodedBy, .gain, .genre, .grouping, .id, .isrc, .label, .language, .length, .location,
   .lyrics, .mcdi, .media, .mediaType, .norm, .organization, .origYear, .peak, .performer, .pgap,
   .pmedia, .provider, .publisher, .releaseCountry, .smpb, .style, .tbpm, .title, .tlen, .tmed,
   .tool, .totalDiscs, .totalTracks, .trackNumber, .trackTotal, .tsrc, .type, .upc, .uploader,
   .url, .website, .wmCollectionId, .work, .www, .wwwAudioFile, .wwwAudioSource, .extension]

/-- The word that names a tag in a pattern. -/
def word : Tag → String
  | .album => "ALBUM"
  | .albumArtist => "ALBUMARTIST"
  | .artist => "ARTIST"
  | .barcode => "BARCODE"
  | .bpm => "BPM"
  | .byline => "BY"
  | .catalogId => "CATALOGID"
  | .catalogNumber => "CATALOGNUMBER"
  | .composer => "COMPOSER"
  | .conductor => "CONDUCTOR"
  | .copyright => "COPYRIGHT"
  | .country => "COUNTRY"
  | .credits => "CREDITS"
  | .date => "DATE"
  | .description => "DESCRIPTION"
  | .discNumber => "DISCNUMBER"
  | .discTotal => "DISCTOTAL"
  | .encodedBy => "ENCODEDBY"
  | .gain => "GAIN"
  | .genre => "GENRE"
  | .grouping => "GROUPING"
  | .id => "ID"
  | .isrc => "ISRC"
  | .label => "LABEL"
  | .language => "LANGUAGE"
  | .length => "LENGTH"
  | .location => "LOCATION"
  | .lyrics => "LYRICS"
  | .mcdi => "MCDI"
  | .media => "MEDIA"
  | .mediaType => "MEDIATYPE"
  | .norm => "NORM"
  | .organization => "ORGANIZATION"
  | .origYear => "ORIGYEAR"
  | .peak => "PEAK"
  | .performer => "PERFORMER"
  | .pgap => "PGAP"
  | .pmedia => "PMEDIA"
  | .provider => "PROVIDER"
  | .publisher => "PUBLISHER"
  | .releaseCountry => "RELEASECOUNTRY"
  | .smpb => "SMPB"
  | .style => "STYLE"
  | .tbpm => "TBPM"
  | .title => "TITLE"
  | .tlen => "TLEN"
  | .tmed => "TMED"
  | .tool => "TOOL"
  | .totalDiscs => "TOTALDISCS"
  | .totalTracks => "TOTALTRACKS"
  | .trackNumber => "TRACKNUMBER"
  | .trackTotal => "TRACKTOTAL"
  | .tsrc => "TSRC"
  | .type => "TYPE"
  | .upc => "UPC"
  | .uploader => "UPLOADER"
  | .url => "URL"
  | .website => "WEBSITE"
  | .wmCollectionId => "WMCOLLECTIONID"
  | .work => "WORK"
  | .www => "WWW"
  | .wwwAudioFile => "WWWAUDIOFILE"
  | .wwwAudioSource => "WWWAUDIOSOURCE"
  | .extension => "EXTENSION"

/-- The canonical name, under which a tag's value is stored. -/
def canonicalName : Tag → String
  | .extension => "extension"
  | tag => tag.word

/-- Further words that name a tag. -/
def aliases : List (String × Tag) :=
  [("DISC", .discNumber), ("TRACK", .trackNumber), ("YEAR", .date)]

/-- Every accepted word with its tag. -/
def vocabulary : List (String × Tag) :=
  all.map (fun tag => (tag.word, tag)) ++ aliases

/-- The accepted words in order, each with its tag. -/
def available : List (String × Tag) :=
  vocabulary.mergeSort fun a b => a.1 ≤ b.1

/-- A name without its first underscore, in upper case. -/
def normalizeName (raw : String) : String :=
  Text.upper (String.ofList (raw.toList.eraseP (· == '_')))

/-- The tag that a word names, if it is one of the vocabulary. -/
def ofWord? (word : String) : Option Tag :=
  vocabulary.lookup word

/-- The tag that a loosely written name stands for. -/
def ofName? (raw : String) : Option Tag :=
  ofWord? (normalizeName raw)

/-- The tag with the given canonical name. -/
def ofCanonicalName? (name : String) : Option Tag :=
  all.find? (·.canonicalName = name)

end Tag

end MusicFiling
