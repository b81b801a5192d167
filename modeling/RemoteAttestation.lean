import RemoteAttestation.CommandLine.Directory
import RemoteAttestation.Main
import RemoteAttestation.Key.Load
import RemoteAttestation.Proofs.Appraisal.Policy
import RemoteAttestation.Proofs.Appraisal.Warnings
import RemoteAttestation.Proofs.CommandLine.Execution
import RemoteAttestation.Proofs.CommandLine.Flags
import RemoteAttestation.Proofs.CommandLine.Noninterference
import RemoteAttestation.Proofs.Bytes.Integer
import RemoteAttestation.Proofs.Wire.Grammar
import RemoteAttestation.Proofs.Algorithm
import RemoteAttestation.Proofs.Attestation
import RemoteAttestation.Proofs.Bytes.Hex
import RemoteAttestation.Proofs.CommandLine.PcrFile
import RemoteAttestation.Proofs.Device.Quoting
import RemoteAttestation.Proofs.HonestRun
import RemoteAttestation.Proofs.Attestation.Spelling
import RemoteAttestation.Proofs.SelfDelimiting
import RemoteAttestation.Proofs.Device.QuoteExchange
import RemoteAttestation.Proofs.Device.PcrReading
import RemoteAttestation.Proofs.Device.PcrAnswer
import RemoteAttestation.Proofs.Device.PcrRounds
import RemoteAttestation.Proofs.Quote.Request
import RemoteAttestation.Proofs.Quote.Command
import RemoteAttestation.Proofs.CommandLine.PcrPrinting
import RemoteAttestation.Proofs.CommandLine.Surroundings
import RemoteAttestation.Proofs.CommandLine.Settings
import RemoteAttestation.Proofs.CommandLine.Orders
import RemoteAttestation.Proofs.CommandLine.QuoteFile
import RemoteAttestation.Proofs.CommandLine.QuotePrinting
import RemoteAttestation.Proofs.CommandLine.PcrSpelling
import RemoteAttestation.Proofs.Pcr.Preimage
import RemoteAttestation.Proofs.Appraisal.Agreement
import RemoteAttestation.Proofs.Key.PublicArea
import RemoteAttestation.Proofs.Key.Detection
import RemoteAttestation.Proofs.Bytes.Width
import RemoteAttestation.Proofs.Key.FixedWidth
import RemoteAttestation.Proofs.Key.Numbers
import RemoteAttestation.Proofs.Pcr.ReadBack
import RemoteAttestation.Proofs.CommandLine.PcrNormalForm
import RemoteAttestation.Proofs.Signature.Spelling
import RemoteAttestation.Proofs.Key.LengthPrefix
import RemoteAttestation.Proofs.Appraisal.Integers
import RemoteAttestation.Proofs.Rsa.SaltedEncoding
import RemoteAttestation.Proofs.Appraisal.SaltLength
import RemoteAttestation.Proofs.Der.Writing
import RemoteAttestation.Proofs.Key.NamedCurve
import RemoteAttestation.Proofs.Bytes.Base64
import RemoteAttestation.Proofs.Text.Lines
import RemoteAttestation.Proofs.Pem.Blocks
import RemoteAttestation.Proofs.Pem.Armor
import RemoteAttestation.Proofs.Pem.Truncation
import RemoteAttestation.Proofs.Pem.Bundle
import RemoteAttestation.Proofs.Key.Bundle
import RemoteAttestation.Proofs.Json.Distinct
import RemoteAttestation.Proofs.Attestation.Report
import RemoteAttestation.Proofs.Pcr.BitmapForm
import RemoteAttestation.Proofs.Text.Split
import RemoteAttestation.Proofs.CommandLine.FlagValues
import RemoteAttestation.Proofs.CommandLine.PcrList
import RemoteAttestation.Proofs.Device.PlainFile
import RemoteAttestation.Proofs.Wire.Fields
import RemoteAttestation.Proofs.Wire.Attempts
