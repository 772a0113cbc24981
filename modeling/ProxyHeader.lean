import ProxyHeader.Main
import ProxyHeader.Proofs.AddressBlock
import ProxyHeader.Proofs.Preamble
import ProxyHeader.Proofs.Header
import ProxyHeader.Proofs.RoundTrip
import ProxyHeader.Proofs.Refusal
import ProxyHeader.Proofs.Stream
import ProxyHeader.Proofs.Guard
import ProxyHeader.Proofs.Findings
import ProxyHeader.Proofs.Phases
import ProxyHeader.Proofs.PartialRead
import ProxyHeader.Proofs.JsonReader
import ProxyHeader.Proofs.Dump
import ProxyHeader.Proofs.Utf8
import ProxyHeader.Proofs.Lines
import ProxyHeader.Proofs.AddressText
import ProxyHeader.Proofs.TextReport
import ProxyHeader.Proofs.JsonReport
import ProxyHeader.Proofs.Verdict
import ProxyHeader.Proofs.AddressBytes
import ProxyHeader.Proofs.TomlNames
import ProxyHeader.Proofs.SettingsTree
import ProxyHeader.Proofs.SettingsSources
import ProxyHeader.Proofs.SparedSettings
import ProxyHeader.Proofs.Layers
import ProxyHeader.Proofs.Stages
import ProxyHeader.Proofs.TornFilters
import ProxyHeader.Proofs.StandardInput
import ProxyHeader.Proofs.Noting
import ProxyHeader.Proofs.SharedList
import ProxyHeader.Proofs.Relocation
import ProxyHeader.Proofs.Checks
import ProxyHeader.Proofs.ValidText
import ProxyHeader.Proofs.PrintedValues
import ProxyHeader.Proofs.FirstRecords
import ProxyHeader.Proofs.JsonFields
import ProxyHeader.Proofs.EndpointLines
import ProxyHeader.Proofs.Messages
import ProxyHeader.Proofs.BlockFields
import ProxyHeader.Proofs.SingleReads
import ProxyHeader.Proofs.GuessedText
import ProxyHeader.Proofs.BindAddress
import ProxyHeader.Proofs.WordCursor
