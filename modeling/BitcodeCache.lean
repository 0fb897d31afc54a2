import BitcodeCache.Bytes
import BitcodeCache.Checksum
import BitcodeCache.Text.Utf8
import BitcodeCache.Text.Quoted
import BitcodeCache.Text.Numeral
import BitcodeCache.Text.ByteList
import BitcodeCache.Digest
import BitcodeCache.FileError
import BitcodeCache.FileTime
import BitcodeCache.Path
import BitcodeCache.Signature
import BitcodeCache.Artifact
import BitcodeCache.Fingerprint
import BitcodeCache.Entry
import BitcodeCache.Entry.Load
import BitcodeCache.Event
import BitcodeCache.Toml.Blank
import BitcodeCache.Toml.Document
import BitcodeCache.CachePath
import BitcodeCache.Linker.Keyword
import BitcodeCache.Linker.Rename
import BitcodeCache.Settings.Canonical
import BitcodeCache.Settings.Read
import BitcodeCache.Disk
import BitcodeCache.Disk.Operations
import BitcodeCache.Resolve
import BitcodeCache.ScriptCache
import BitcodeCache.CommandLine.Arguments
import BitcodeCache.Entry.Report
import BitcodeCache.FileAccess
import BitcodeCache.Linker.Options
import BitcodeCache.Settings.Load
import BitcodeCache.CommandLine.Program
import BitcodeCache.Main
import BitcodeCache.Proofs.Entry.Header
import BitcodeCache.Proofs.Entry.Payload
import BitcodeCache.Proofs.Artifact
import BitcodeCache.Proofs.Entry.Acceptance
import BitcodeCache.Proofs.Entry.Pool
import BitcodeCache.Proofs.Entry.Encoding
import BitcodeCache.Proofs.Entry.Load
import BitcodeCache.Proofs.Disk.Walk
import BitcodeCache.Proofs.Lookup
import BitcodeCache.Proofs.Disk.Operations
import BitcodeCache.Proofs.Store
import BitcodeCache.Proofs.Resolve
import BitcodeCache.Proofs.Transparency
import BitcodeCache.Proofs.Checksum
import BitcodeCache.Proofs.Entry.Cut
import BitcodeCache.Proofs.Entry.Damage
import BitcodeCache.Proofs.Text
import BitcodeCache.Proofs.Linker.Keyword
import BitcodeCache.Proofs.Linker.Rename
import BitcodeCache.Proofs.Settings.Canonical
import BitcodeCache.Proofs.Settings.Signature
import BitcodeCache.Proofs.Store.Reading
import BitcodeCache.Proofs.CacheMap
import BitcodeCache.Proofs.Healing
import BitcodeCache.Proofs.Resolve.Calls
import BitcodeCache.Proofs.Store.Atomicity
import BitcodeCache.Proofs.Store.Steps
import BitcodeCache.Proofs.Store.Interleaving
import BitcodeCache.Proofs.Entry.Size
import BitcodeCache.Proofs.Entry.Reencoding
import BitcodeCache.Proofs.Fingerprint
import BitcodeCache.Proofs.Entry.Fault
import BitcodeCache.Proofs.Entry.Classification
import BitcodeCache.Proofs.Text.ByteList
import BitcodeCache.Proofs.Entry.SignatureLimit
import BitcodeCache.Proofs.CachePath
import BitcodeCache.Proofs.CommandLine.Reading
import BitcodeCache.Proofs.CommandLine.Verify
import BitcodeCache.Proofs.Resolve.Stored
import BitcodeCache.Proofs.Verification
import BitcodeCache.Proofs.Checksum.Bitwise
import BitcodeCache.Proofs.Entry.Layout
import BitcodeCache.Proofs.Entry.Machine
import BitcodeCache.Proofs.Entry.Following
import BitcodeCache.Proofs.Entry.Safety
import BitcodeCache.Proofs.Linker.LastRule
import BitcodeCache.Proofs.Linker.Listing
import BitcodeCache.Proofs.CommandLine.Linker
import BitcodeCache.Proofs.SourceEdit
import BitcodeCache.Proofs.FileTime
import BitcodeCache.Proofs.SourceTouch
import BitcodeCache.Proofs.Path
import BitcodeCache.Proofs.Path.Parent
import BitcodeCache.Proofs.Artifact.Lookup
import BitcodeCache.Proofs.Project.Nearest
import BitcodeCache.Proofs.Project
import BitcodeCache.Proofs.CommandLine.CachePath
import BitcodeCache.Proofs.CommandLine.Nearest
